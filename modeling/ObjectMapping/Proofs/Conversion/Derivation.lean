import ObjectMapping.Proofs.Conversion.Acceptance
import ObjectMapping.Proofs.Conversion.Lookup
import ObjectMapping.Proofs.Conversion.StepTree

namespace ObjectMapping

theorem TypeRef.eqIgnoringNullability_iff {s t : TypeRef} :
    s.eqIgnoringNullability t = true ↔ s.toNonNull = t.toNonNull := by
  simp [eqIgnoringNullability, toNonNull]

namespace Resolver

def elementsWithin (r : Resolver) (levels : Nat) : ElementResolver :=
  fun s t => (r.resolveWithin levels s t).toOption

/-- `Converts r levels s t step`: the step takes `s` to `t` with at most `levels` converters inside
one another. -/
inductive Converts (r : Resolver) : Nat → TypeRef → TypeRef → ConversionStep → Prop
  -- the types are the same
  | same (levels : Nat) (t : TypeRef) : Converts r levels t t (.direct t t .none)
  -- the types differ in outer nullability only
  | bridged (levels : Nat) {s t : TypeRef} {nullHandling : NullHandling} (hne : s ≠ t)
      (hb : r.bridge s t = .ok nullHandling) (heq : s.toNonNull = t.toNonNull) :
      Converts r levels s t (.direct s t nullHandling)
  -- one converter is preferred to all others that accept the types
  | converted {inner : Nat} {s t : TypeRef} {nullHandling : NullHandling} {best : Candidate}
      (hb : r.bridge s t = .ok nullHandling) (hne : s.toNonNull ≠ t.toNonNull)
      (hbest : best.IsBest
        (r.registry.accepting (r.elementsWithin inner) s.toNonNull t.toNonNull)) :
      Converts r (inner + 1) s t
        { source := s, target := t, nullHandling, converter := some best.converter,
          elements := best.elements }

variable {r : Resolver} {levels d : Nat} {s t : TypeRef} {step n : ConversionStep}

theorem elementsWithin_eq_some_iff :
    r.elementsWithin levels s t = some step ↔ r.resolveWithin levels s t = .ok step := by
  unfold elementsWithin
  cases r.resolveWithin levels s t <;> simp [Except.toOption]

/-- Types that differ in more than outer null need a converter. -/
theorem resolveWithin_zero {nullHandling : NullHandling} (hne : s.toNonNull ≠ t.toNonNull)
    (hb : r.bridge s t = .ok nullHandling) :
    r.resolveWithin 0 s t = .error (.noConverter s t) := by
  have hst : s ≠ t := fun heq => hne (congrArg TypeRef.toNonNull heq)
  unfold resolveWithin
  rw [if_neg hst, hb]
  exact if_neg (mt TypeRef.eqIgnoringNullability_iff.mp hne)

/-- With a level left, the registry is asked about the types without outer null. -/
theorem resolveWithin_succ {nullHandling : NullHandling} (inner : Nat)
    (hne : s.toNonNull ≠ t.toNonNull) (hb : r.bridge s t = .ok nullHandling) :
    r.resolveWithin (inner + 1) s t =
      choose s t nullHandling
        (r.registry.candidates (r.elementsWithin inner) s.toNonNull t.toNonNull) := by
  have hst : s ≠ t := fun heq => hne (congrArg TypeRef.toNonNull heq)
  unfold resolveWithin
  rw [if_neg hst, hb]
  exact if_neg (mt TypeRef.eqIgnoringNullability_iff.mp hne)

/-- The conversions that are found are exactly those that can be derived. -/
theorem resolveWithin_eq_ok_iff :
    r.resolveWithin levels s t = .ok step ↔ r.Converts levels s t step := by
  -- which candidate is best does not depend on their order
  have hbest (inner : Nat) (best : Candidate) :
      best.IsBest (r.registry.candidates (r.elementsWithin inner) s.toNonNull t.toNonNull) ↔
        best.IsBest (r.registry.accepting (r.elementsWithin inner) s.toNonNull t.toNonNull) :=
    Candidate.isBest_congr fun _ => Registry.mem_candidates
  have hsorted (inner : Nat) :=
    r.registry.candidates_pairwise_before (r.elementsWithin inner) s.toNonNull t.toNonNull
  constructor
  · intro h
    unfold resolveWithin at h
    split at h
    · rename_i heq
      cases heq
      cases h
      exact .same levels s
    rename_i hne
    split at h
    · cases h
    rename_i nullHandling hb
    split at h
    · rename_i heq
      cases h
      exact .bridged levels hne hb (TypeRef.eqIgnoringNullability_iff.mp heq)
    rename_i hdiff
    cases levels with
    | zero => cases h
    | succ inner =>
      obtain ⟨best, hb', rfl⟩ := (choose_eq_ok_iff (hsorted inner)).mp h
      exact .converted hb (fun heq => hdiff (TypeRef.eqIgnoringNullability_iff.mpr heq))
        ((hbest inner best).mp hb')
  · intro h
    cases h with
    | same =>
      unfold resolveWithin
      exact if_pos rfl
    | bridged _ hne hb heq =>
      unfold resolveWithin
      rw [if_neg hne, hb]
      exact if_pos (TypeRef.eqIgnoringNullability_iff.mpr heq)
    | converted hb hne hb' =>
      rw [resolveWithin_succ _ hne hb]
      exact (choose_eq_ok_iff (hsorted _)).mpr ⟨_, (hbest _ _).mpr hb', rfl⟩

theorem Converts.source_eq (h : r.Converts levels s t step) : step.source = s := by
  cases h <;> rfl

theorem Converts.target_eq (h : r.Converts levels s t step) : step.target = t := by
  cases h <;> rfl

/-- Elements are converted with one level less. -/
theorem Converts.element (h : r.Converts levels s t step) {e : ConversionStep}
    (he : e ∈ step.elements) :
    ∃ inner, levels = inner + 1 ∧ r.Converts inner e.source e.target e := by
  cases h with
  | same => cases he
  | bridged => cases he
  | converted _ _ hbest =>
    obtain ⟨c, _, _, _, hacc⟩ := Registry.mem_accepting.mp hbest.mem
    obtain ⟨a, b, hab⟩ := (Converter.accepts_iff.mp hacc).2.exists_pair he
    have hconv := resolveWithin_eq_ok_iff.mp (elementsWithin_eq_some_iff.mp hab)
    refine ⟨_, rfl, ?_⟩
    rw [hconv.source_eq, hconv.target_eq]
    exact hconv

/-- Every node of a conversion is the conversion of its own two types. -/
theorem Converts.nodeAt (hn : ConversionStep.NodeAt d n step) (h : r.Converts levels s t step) :
    d ≤ levels ∧ r.Converts (levels - d) n.source n.target n := by
  induction hn generalizing levels s t with
  | root step =>
    rw [h.source_eq, h.target_eq]
    exact ⟨Nat.zero_le _, h⟩
  | inside he _ ih =>
    obtain ⟨inner, rfl, hconv⟩ := h.element he
    obtain ⟨hle, hnode⟩ := ih hconv
    rw [Nat.add_sub_add_right]
    exact ⟨Nat.succ_le_succ hle, hnode⟩

/-- Along a path there are at most as many converters as levels. -/
theorem Converts.countP_converter_le {path : List ConversionStep}
    (hp : ConversionStep.Path path step) (h : r.Converts levels s t step) :
    path.countP (·.converter.isSome) ≤ levels := by
  induction hp generalizing levels s t with
  | leaf _ =>
    cases h with
    | same => exact Nat.zero_le _
    | bridged => exact Nat.zero_le _
    | converted => exact Nat.succ_le_succ (Nat.zero_le _)
  | inside he _ ih =>
    obtain ⟨inner, rfl, hconv⟩ := h.element he
    rw [List.countP_cons]
    have hle := ih hconv
    split <;> omega

end Resolver

end ObjectMapping
