import Mathlib.Data.List.Sort
import ObjectMapping.Proofs.Conversion.Lookup

namespace ObjectMapping

/-- If all items with a property come first, no other is met while they are taken. -/
theorem takeWhile_eq_filter_of_pairwise {α : Type} {p : α → Bool} {l : List α}
    (h : l.Pairwise fun a b => p b = true → p a = true) : l.takeWhile p = l.filter p := by
  induction l with
  | nil => rfl
  | cons a rest ih =>
    obtain ⟨ha, hrest⟩ := List.pairwise_cons.mp h
    by_cases hp : p a = true
    · rw [List.takeWhile_cons_of_pos hp, List.filter_cons_of_pos hp, ih hrest]
    · have hnone : rest.filter p = [] := by
        rw [List.filter_eq_nil_iff]
        intro b hb hpb
        exact hp (ha b hb hpb)
      rw [List.takeWhile_cons_of_neg hp, List.filter_cons_of_neg hp, hnone]

namespace Candidate

def leading (cs : List Candidate) : List Candidate :=
  cs.filter fun c => ∀ d ∈ cs, c.converter.priority ≤ d.converter.priority

variable {cs cs' : List Candidate}

/-- Which candidates lead does not depend on their order. -/
theorem leading_perm (h : cs.Perm cs') : (leading cs).Perm (leading cs') := by
  have hsame : leading cs = cs.filter fun c => ∀ d ∈ cs',
      c.converter.priority ≤ d.converter.priority := by
    simp only [leading, h.mem_iff]
  rw [hsame]
  exact h.filter _

/-- Which candidates lead depends on nothing but their priorities. -/
theorem leading_map {φ : Candidate → Candidate}
    (hφ : ∀ c, (φ c).converter.priority = c.converter.priority) :
    leading (cs.map φ) = (leading cs).map φ := by
  simp only [leading, List.filter_map, List.forall_mem_map, Function.comp_def, hφ]

/-- In order of look-up the leading candidates stand in front. -/
theorem leading_cons {first : Candidate} {rest : List Candidate}
    (h : (first :: rest).Pairwise Before) :
    leading (first :: rest) =
      first :: rest.takeWhile (·.converter.priority = first.converter.priority) := by
  obtain ⟨hfirst, hrest⟩ := List.pairwise_cons.mp h
  have hle : ∀ d ∈ first :: rest, first.converter.priority ≤ d.converter.priority := by
    intro d hd
    rcases List.mem_cons.mp hd with rfl | hd
    · exact UInt32.le_refl _
    · exact (hfirst d hd).priority_le
  have hleads (c : Candidate) (hc : c ∈ first :: rest) :
      (∀ d ∈ first :: rest, c.converter.priority ≤ d.converter.priority) ↔
        c.converter.priority = first.converter.priority := by
    constructor
    · intro hmin
      exact UInt32.le_antisymm (hmin first List.mem_cons_self) (hle c hc)
    · intro heq
      rwa [heq]
  have hfilter : leading (first :: rest) =
      (first :: rest).filter (·.converter.priority = first.converter.priority) :=
    List.filter_congr fun c hc => decide_eq_decide.mpr (hleads c hc)
  -- the first has the least priority, so that none behind a greater one has it again
  have hblock : rest.Pairwise fun a b =>
      decide (b.converter.priority = first.converter.priority) = true →
        decide (a.converter.priority = first.converter.priority) = true := by
    refine hrest.imp_of_mem fun ha _ hab hb => ?_
    have hle' := hab.priority_le
    rw [of_decide_eq_true hb] at hle'
    exact decide_eq_true (UInt32.le_antisymm hle' (hle _ (List.mem_cons_of_mem _ ha)))
  rw [hfilter, List.filter_cons_of_pos (by simp), takeWhile_eq_filter_of_pairwise hblock]

end Candidate

namespace Resolver

def verdict (source target : TypeRef) (nullHandling : NullHandling) :
    List Candidate → Except UnresolvedReason ConversionStep
  | [] => .error (.noConverter source target)
  | [only] =>
    .ok { source, target, nullHandling, converter := some only.converter,
          elements := only.elements }
  | tied => .error (.ambiguousConverter source target (tied.map (·.converter.name)))

/-- A choice among candidates depends on the leading ones alone. -/
theorem choose_eq_verdict {s t : TypeRef} {nullHandling : NullHandling} {cs : List Candidate}
    (hcs : cs.Pairwise Candidate.Before) :
    choose s t nullHandling cs = verdict s t nullHandling (Candidate.leading cs) := by
  cases cs with
  | nil => rfl
  | cons first rest =>
    rw [Candidate.leading_cons hcs, choose]
    cases rest.takeWhile (·.converter.priority = first.converter.priority) with
    | nil => rfl
    | cons next tied => rfl

end Resolver

end ObjectMapping
