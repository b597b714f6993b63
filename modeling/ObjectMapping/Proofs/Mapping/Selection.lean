import Mathlib.Data.List.Nodup
import ObjectMapping.Proofs.Mapping.Plans

namespace ObjectMapping

def Property.key (p : Property) : String × TypeRef :=
  (p.name, p.type)

namespace Construction

def HasValue (plans : List PropertyPlan) (p : Property) : Prop :=
  ∃ plan ∈ plans, plan.key = p.key ∧ plan.isResolved = true

instance (plans : List PropertyPlan) (p : Property) : Decidable (HasValue plans p) :=
  inferInstanceAs (Decidable (∃ plan ∈ plans, _))

variable {plans : List PropertyPlan} {p : Property} {plan : PropertyPlan} {c : Constructor}
  {target : TypeDescriptor} {explicit : Option Signature} {phase : AssignmentPhase} {i : Nat}

theorem planFor?_eq_some (h : planFor? plans p = some plan) : plan ∈ plans ∧ plan.key = p.key :=
  ⟨List.mem_of_find?_eq_some h, by simpa [Property.key] using List.find?_some h⟩

/-- If no slot is planned twice, every plan is found for its slot. -/
theorem planFor?_eq_some_iff (hk : (plans.map (·.key)).Nodup) :
    planFor? plans p = some plan ↔ plan ∈ plans ∧ plan.key = p.key := by
  constructor
  · exact planFor?_eq_some
  · rintro ⟨hmem, hkey⟩
    cases hfind : planFor? plans p with
    | none =>
      have hnone := List.find?_eq_none.mp hfind plan hmem
      exact absurd (decide_eq_true hkey) hnone
    | some found =>
      obtain ⟨hmem', hkey'⟩ := planFor?_eq_some hfind
      rw [List.inj_on_of_nodup_map hk hmem' hmem (hkey'.trans hkey.symm)]

theorem hasValue_iff (hk : (plans.map (·.key)).Nodup) :
    HasValue plans p ↔ ∃ plan, planFor? plans p = some plan ∧ plan.isResolved = true := by
  simp only [HasValue, planFor?_eq_some_iff hk, and_assoc]

/-- Nothing is in the way of a parameter exactly if its plan has a value. -/
theorem blocker?_eq_none_iff :
    blocker? plans p = none ↔ ∃ plan, planFor? plans p = some plan ∧ plan.isResolved = true := by
  unfold blocker?
  cases planFor? plans p with
  | none => simp
  | some plan => cases hres : plan.resolution <;> simp [PropertyPlan.isResolved, hres]

theorem isSatisfiable_iff :
    isSatisfiable plans c = true ↔ ∀ p ∈ c.required, blocker? plans p = none := by
  simp [isSatisfiable, blocked, List.filterMap_eq_nil_iff]

theorem foldr_better_mem {b : Constructor × Nat} {l : List (Constructor × Nat)}
    (h : l.foldr (fun c later => some (better plans c later)) none = some b) : b ∈ l := by
  induction l generalizing b with
  | nil => cases h
  | cons first rest ih =>
    rw [List.foldr_cons] at h
    cases hrest : rest.foldr (fun c later => some (better plans c later)) none with
    | none =>
      rw [hrest] at h
      cases h
      exact List.mem_cons_self
    | some later =>
      rw [hrest, better] at h
      split at h
      · cases h
        exact List.mem_cons_of_mem _ (ih hrest)
      · cases h
        exact List.mem_cons_self

/-- The best constructor is a declared one, and satisfiable. -/
theorem best?_eq_some {b : Constructor × Nat} (h : best? plans target = some b) :
    b ∈ target.constructors.zipIdx ∧ isSatisfiable plans b.1 = true :=
  List.mem_filter.mp (foldr_better_mem h)

/-- The chosen constructor is declared in the place given and satisfiable. -/
theorem choose_eq_ok (h : choose plans target explicit = .ok (c, i)) :
    target.constructors[i]? = some c ∧ isSatisfiable plans c = true := by
  unfold choose at h
  split at h
  · split at h
    · rename_i b hb
      cases h
      obtain ⟨hmem, hsat⟩ := best?_eq_some hb
      exact ⟨List.mk_mem_zipIdx_iff_getElem?.mp hmem, hsat⟩
    · cases h
  · split at h
    · cases h
    · rename_i b hb
      split at h
      · rename_i hsat
        cases h
        exact ⟨List.mk_mem_zipIdx_iff_getElem?.mp (List.mem_of_find?_eq_some hb), hsat⟩
      · cases h

/-- No choice is out of range, so that the constructor in its place is the chosen one. -/
theorem select_eq (plans : List PropertyPlan) (target : TypeDescriptor)
    (explicit : Option Signature) :
    select plans target explicit =
      (choose plans target explicit).map fun c => assemble plans target c.1 c.2 := by
  unfold select
  cases hchoose : choose plans target explicit with
  | error e => rfl
  | ok chosen =>
    obtain ⟨c, i⟩ := chosen
    simp only [(choose_eq_ok hchoose).1]
    rfl

theorem mem_inPhase {e : PropertyPlan} :
    e ∈ inPhase phase plans ↔
      ∃ plan ∈ plans, plan.isResolved = true ∧ e = { plan with phase } := by
  simp only [inPhase, List.mem_map, List.mem_filter, and_assoc, eq_comm]

theorem openProperties_eq (target : TypeDescriptor) (c : Constructor) :
    openProperties target c =
      target.properties.filter fun p => p.mutable ∧ p.name ∉ c.parameters.map (·.name) := by
  rw [openProperties, TypeDescriptor.mutableProperties, List.filter_filter]
  congr 1
  funext p
  simp [Bool.and_comm]

/-- In a phase, the plans that supply values are those for the slots with a value. -/
theorem map_inPhase (hk : (plans.map (·.key)).Nodup) (ps : List Property) :
    (inPhase phase (ps.filterMap (planFor? plans))).map (fun e => (e.key, e.phase)) =
      (ps.filter (HasValue plans ·)).map fun p => (p.key, phase) := by
  -- without repeated keys the first plan for a slot is the only one
  have hvalue (p : Property) := hasValue_iff (p := p) hk
  induction ps with
  | nil => rfl
  | cons p rest ih =>
    cases hp : planFor? plans p with
    | none =>
      have hno : ¬ HasValue plans p := by simp [hvalue, hp]
      rw [List.filterMap_cons_none hp, List.filter_cons_of_neg (by simpa using hno), ih]
    | some plan =>
      rw [List.filterMap_cons_some hp]
      cases hres : plan.isResolved with
      | false =>
        have hno : ¬ HasValue plans p := by simp [hvalue, hp, hres]
        rw [List.filter_cons_of_neg (by simpa using hno), ← ih, inPhase, inPhase,
          List.filter_cons_of_neg (by simp [hres])]
      | true =>
        have hyes : HasValue plans p := (hvalue p).mpr ⟨plan, hp, hres⟩
        rw [List.filter_cons_of_pos (by simpa using hyes), List.map_cons, ← ih, inPhase, inPhase,
          List.filter_cons_of_pos (by simpa using hres), List.map_cons, List.map_cons,
          ← (planFor?_eq_some hp).2]
        rfl

end Construction

end ObjectMapping
