import ObjectMapping.Proofs.Conversion.Derivation
import ObjectMapping.Proofs.Conversion.Leading

namespace ObjectMapping

namespace Candidate

variable {cs : List Candidate} {c : Candidate}

/-- A candidate leads if no other has a smaller priority. -/
theorem mem_leading :
    c ∈ leading cs ↔ c ∈ cs ∧ ∀ d ∈ cs, c.converter.priority ≤ d.converter.priority := by
  rw [leading, List.mem_filter, decide_eq_true_eq]

theorem leading_sort_pairwise_index
    (hcs : cs.Pairwise fun a b => a.converter.index < b.converter.index) :
    (leading (sort cs)).Pairwise fun a b => a.converter.index < b.converter.index := by
  have hsorted : (leading (sort cs)).Pairwise Before := (sort_pairwise_before hcs).filter _
  refine hsorted.imp_of_mem ?_
  intro a b ha hb hab
  rcases hab with hlt | ⟨_, hlt⟩
  · -- neither of two leading candidates goes before the other by priority
    have hle := (mem_leading.mp hb).2 a (mem_leading.mp ha).1
    exact absurd hlt (UInt32.not_lt.mpr hle)
  · exact hlt

/-- Sorting keeps the leading candidates in the order of registration. -/
theorem leading_sort (hcs : cs.Pairwise fun a b => a.converter.index < b.converter.index) :
    leading (sort cs) = leading cs := by
  have : Std.Irrefl fun a b : Candidate => a.converter.index < b.converter.index :=
    ⟨fun a => Nat.lt_irrefl a.converter.index⟩
  have hperm := leading_perm (sort_perm cs)
  exact (leading_sort_pairwise_index hcs).eq_of_mem_iff (hcs.filter _) fun _ => hperm.mem_iff

/-- Some candidate leads unless there is none at all. -/
theorem leading_eq_nil_iff (hcs : cs.Pairwise fun a b => a.converter.index < b.converter.index) :
    leading cs = [] ↔ cs = [] := by
  constructor
  · intro h
    rw [← leading_sort hcs] at h
    have hsorted := sort_pairwise_before hcs
    cases hsort : sort cs with
    | nil => exact List.nil_perm.mp (hsort ▸ sort_perm cs)
    | cons first rest =>
      rw [hsort] at h hsorted
      rw [leading_cons hsorted] at h
      cases h
  · rintro rfl
    rfl

/-- A candidate is the best one if it alone is leading. -/
theorem leading_eq_singleton_iff
    (hcs : cs.Pairwise fun a b => a.converter.index < b.converter.index) :
    leading cs = [c] ↔ c.IsBest cs := by
  have hsorted := sort_pairwise_before hcs
  have hbest : c.IsBest cs ↔ c.IsBest (sort cs) := isBest_congr fun _ => (sort_perm cs).symm.mem_iff
  rw [← leading_sort hcs, hbest]
  cases hsort : sort cs with
  | nil =>
    constructor
    · intro h
      cases h
    · intro h
      cases h.mem
  | cons first rest =>
    rw [hsort] at hsorted
    rw [leading_cons hsorted, isBest_cons_iff hsorted, List.cons.injEq, eq_comm]

end Candidate

namespace Resolver

variable {r : Resolver} {inner : Nat} {s t : TypeRef} {nullHandling : NullHandling}

/-- Null can be dealt with unless it would have to go where it is not allowed. -/
theorem exists_bridge (hnull : s.nullable = true → t.nullable = false → r.enforceNotNull = true) :
    ∃ nullHandling, r.bridge s t = .ok nullHandling := by
  unfold bridge
  cases hs : s.nullable with
  | false => cases t.nullable <;> exact ⟨_, rfl⟩
  | true =>
    cases ht : t.nullable with
    | true => exact ⟨_, rfl⟩
    | false => exact ⟨_, if_pos (hnull hs ht)⟩

/-- The converters that accept the two types without regard to outer null, in the order of their
registration. -/
def acceptingWithin (r : Resolver) (inner : Nat) (s t : TypeRef) : List Candidate :=
  r.registry.accepting (r.elementsWithin inner) s.toNonNull t.toNonNull

theorem acceptingWithin_pairwise_index (r : Resolver) (inner : Nat) (s t : TypeRef) :
    (r.acceptingWithin inner s t).Pairwise fun a b => a.converter.index < b.converter.index :=
  r.registry.accepting_pairwise_index _ _ _

/-- Between types that differ in more than outer null, the leading candidates decide. -/
theorem resolveWithin_eq_verdict (hne : s.toNonNull ≠ t.toNonNull)
    (hb : r.bridge s t = .ok nullHandling) :
    r.resolveWithin (inner + 1) s t =
      verdict s t nullHandling (Candidate.leading (r.acceptingWithin inner s t)) := by
  have hsorted := r.registry.candidates_pairwise_before (r.elementsWithin inner)
    s.toNonNull t.toNonNull
  rw [resolveWithin_succ inner hne hb, choose_eq_verdict hsorted]
  exact congrArg _ (Candidate.leading_sort (r.acceptingWithin_pairwise_index inner s t))

/-- Between two types that differ in more than outer null the converters that accept them decide.
There is no conversion if there are none. There is one if a single converter has the best priority,
and it goes by that converter. Otherwise all those of the best priority are named as tied, in the
order of their registration. -/
theorem resolveWithin_decides (r : Resolver) (inner : Nat) (s t : TypeRef)
    (hne : s.toNonNull ≠ t.toNonNull)
    (hnull : s.nullable = true → t.nullable = false → r.enforceNotNull = true) :
    let accepting := r.acceptingWithin inner s t
    (r.resolveWithin (inner + 1) s t = .error (.noConverter s t) ↔ accepting = []) ∧
    (∀ step, r.resolveWithin (inner + 1) s t = .ok step ↔
      ∃ (best : Candidate) (nullHandling : NullHandling), best.IsBest accepting ∧
        r.bridge s t = .ok nullHandling ∧
        step = { source := s, target := t, nullHandling, converter := some best.converter,
                 elements := best.elements }) ∧
    (∀ names, r.resolveWithin (inner + 1) s t = .error (.ambiguousConverter s t names) ↔
      2 ≤ (Candidate.leading accepting).length ∧
        names = (Candidate.leading accepting).map (·.converter.name)) ∧
    ∀ reason, r.resolveWithin (inner + 1) s t = .error reason →
      reason = .noConverter s t ∨ ∃ names, reason = .ambiguousConverter s t names := by
  intro accepting
  obtain ⟨nullHandling, hb⟩ := exists_bridge hnull
  have hindex := r.acceptingWithin_pairwise_index inner s t
  have hnone : Candidate.leading accepting = [] ↔ accepting = [] :=
    Candidate.leading_eq_nil_iff hindex
  have hbest (best : Candidate) : Candidate.leading accepting = [best] ↔ best.IsBest accepting :=
    Candidate.leading_eq_singleton_iff hindex
  have hverdict : r.resolveWithin (inner + 1) s t =
      verdict s t nullHandling (Candidate.leading accepting) := resolveWithin_eq_verdict hne hb
  simp only [hverdict, ← hnone, ← hbest, hb]
  -- the verdict goes by the number of leading candidates: none, one, or more
  match Candidate.leading accepting with
  | [] => simp [verdict]
  | [only] => simp [verdict, eq_comm]
  | first :: second :: rest => simp [verdict, eq_comm]

end Resolver

namespace Sample

def numbers : TypeRef := { name := "List", arguments := [{ name := "Long" }], nullable := true }

def words : TypeRef := { name := "List", arguments := [{ name := "String" }] }

def copying : Resolver :=
  let copyList : Converter :=
    .pattern "CopyList" (.named "List" [.any]) (.named "List" [.any]) 3000
  ⟨.register .standard copyList, true⟩

def copied : ConversionStep where
  source := numbers
  target := words
  nullHandling := .unsafeUnwrap
  converter := some ⟨7, "CopyList", 3000⟩

/-- Two converters are tied as long as one more converter may be applied to the items. Without that
the built-in one does not accept the lists. From a list to a number no converter leads. -/
theorem lists_decided :
    numbers.toNonNull ≠ words.toNonNull ∧ copying.enforceNotNull = true ∧
      copying.resolveWithin 2 numbers words =
        .error (.ambiguousConverter numbers words ["IterableToIterable", "CopyList"]) ∧
      copying.resolveWithin 1 numbers words = .ok copied ∧
      copying.resolveWithin 2 numbers { name := "Long" } =
        .error (.noConverter numbers { name := "Long" }) := by
  have hwords : numbers.toNonNull ≠ words.toNonNull := by decide
  have hlong : numbers.toNonNull ≠ { name := "Long" } := by decide
  obtain ⟨_, _, htied, _⟩ :=
    Resolver.resolveWithin_decides copying 1 numbers words hwords fun _ _ => rfl
  obtain ⟨_, hcopied, _⟩ :=
    Resolver.resolveWithin_decides copying 0 numbers words hwords fun _ _ => rfl
  obtain ⟨hnone, _⟩ :=
    Resolver.resolveWithin_decides copying 1 numbers { name := "Long" } hlong fun _ _ => rfl
  have halone : copying.acceptingWithin 0 numbers words = [⟨⟨7, "CopyList", 3000⟩, []⟩] := by rfl
  refine ⟨hwords, rfl, (htied _).mpr ⟨by decide, by rfl⟩, (hcopied _).mpr ?_, hnone.mpr (by rfl)⟩
  refine ⟨⟨⟨7, "CopyList", 3000⟩, []⟩, .unsafeUnwrap, ?_, rfl, rfl⟩
  rw [halone]
  exact ⟨List.mem_singleton_self _, fun c hc hne => absurd (List.mem_singleton.mp hc) hne⟩

end Sample

end ObjectMapping
