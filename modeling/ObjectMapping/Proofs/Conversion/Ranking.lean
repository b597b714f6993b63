import Mathlib.Data.List.Sort
import Mathlib.Data.Prod.Lex
import ObjectMapping.Proofs.Conversion.Lookup

namespace ObjectMapping

namespace Candidate

def rank (c : Candidate) : ℕ ×ₗ ℕ :=
  toLex (c.converter.priority.toNat, c.converter.index)

/-- The order of a look-up is that of the ranks. -/
theorem before_iff_rank_lt {a b : Candidate} : a.Before b ↔ a.rank < b.rank := by
  rw [rank, rank, Prod.Lex.toLex_lt_toLex, Before, UInt32.lt_iff_toNat_lt, UInt32.toNat_inj]

/-- Candidates in the order of a look-up are known by which they are. -/
theorem eq_of_pairwise_before {cs cs' : List Candidate} (h : cs.Pairwise Before)
    (h' : cs'.Pairwise Before) (hmem : ∀ c, c ∈ cs ↔ c ∈ cs') : cs = cs' := by
  -- a list in strict order is known by its members
  have : Std.Irrefl fun a b : Candidate => a.rank < b.rank := ⟨fun a => lt_irrefl a.rank⟩
  have hrank := h.imp before_iff_rank_lt.mp
  have hrank' := h'.imp before_iff_rank_lt.mp
  exact hrank.eq_of_mem_iff hrank' hmem

end Candidate

namespace Registry

/-- `cs` answers which converters accept the pair of types. -/
structure IsLookup (g : Registry) (resolve : ElementResolver) (s t : TypeRef)
    (cs : List Candidate) : Prop where
  -- there are the converters that accept the pair, and no others, each under its own place, name
  -- and priority and with the conversions of the elements that it gives
  mem_iff : ∀ cand, cand ∈ cs ↔ ∃ i c elements, g.converters[i]? = some c ∧
    c.accepts resolve s t = some elements ∧ cand = ⟨⟨i, c.name, c.priority⟩, elements⟩
  -- no converter is there twice
  once : (cs.map (·.converter.index)).Nodup
  ascending : (cs.map Candidate.rank).SortedLT

variable {g : Registry} {resolve : ElementResolver} {s t : TypeRef} {cs cs' : List Candidate}

theorem IsLookup.pairwise_before (h : g.IsLookup resolve s t cs) : cs.Pairwise Candidate.Before :=
  (List.pairwise_map.mp h.ascending.pairwise).imp Candidate.before_iff_rank_lt.mpr

/-- No converter is a candidate twice. -/
theorem nodup_index_candidates (g : Registry) (resolve : ElementResolver) (s t : TypeRef) :
    ((g.candidates resolve s t).map (·.converter.index)).Nodup := by
  have hperm := (Candidate.sort_perm (g.accepting resolve s t)).map (·.converter.index)
  apply hperm.nodup_iff.mpr
  -- before the sorting the places ascend
  rw [List.Nodup, List.pairwise_map]
  exact (accepting_pairwise_index g resolve s t).imp Nat.ne_of_lt

theorem isLookup_candidates (g : Registry) (resolve : ElementResolver) (s t : TypeRef) :
    g.IsLookup resolve s t (g.candidates resolve s t) where
  mem_iff cand := by
    rw [mem_candidates, mem_accepting]
    constructor
    · rintro ⟨c, i, hc, href, helements⟩
      exact ⟨i, c, cand.elements, hc, helements, by rw [← Converter.ref, ← href]⟩
    · rintro ⟨i, c, elements, hc, helements, rfl⟩
      exact ⟨c, i, hc, rfl, helements⟩
  once := nodup_index_candidates g resolve s t
  ascending := by
    apply List.Pairwise.sortedLT
    rw [List.pairwise_map]
    exact (candidates_pairwise_before g resolve s t).imp Candidate.before_iff_rank_lt.mp

/-- A look-up has one answer only. -/
theorem IsLookup.unique (h : g.IsLookup resolve s t cs) (h' : g.IsLookup resolve s t cs') :
    cs = cs' := by
  apply Candidate.eq_of_pairwise_before
  · exact h.pairwise_before
  · exact h'.pairwise_before
  · intro cand
    rw [h.mem_iff, h'.mem_iff]

/-- A look-up in any registry has each converter that accepts the pair of types once and no other,
in strict order of priorities and of places among equals; and there is no other such list. -/
theorem candidates_ranked (g : Registry) (resolve : ElementResolver) (s t : TypeRef) :
    g.IsLookup resolve s t (g.candidates resolve s t) ∧
      ∀ cs, g.IsLookup resolve s t cs → cs = g.candidates resolve s t :=
  ⟨isLookup_candidates g resolve s t, fun _ h => h.unique (isLookup_candidates g resolve s t)⟩

end Registry

namespace Sample

def int : TypeRef := { name := "Int" }

def money : TypeRef := { name := "Money" }

def mint : Registry :=
  ⟨[.pattern "Late" (.named "Int" []) (.named "Money" []) 20,
    .pattern "Early" (.named "Int" []) (.named "Money" []) 10,
    .pattern "Early" .any (.named "Money" []) 10, .builtIn .numberToNumber]⟩

def mintFound : List Candidate :=
  [⟨⟨1, "Early", 10⟩, []⟩, ⟨⟨2, "Early", 10⟩, []⟩, ⟨⟨0, "Late", 20⟩, []⟩]

/-- The three are found in the order of their priorities, and of their places where these are
equal. -/
theorem money_ranked :
    mint.IsLookup (fun _ _ => none) int money mintFound ∧
      mintFound = mint.candidates (fun _ _ => none) int money := by
  obtain ⟨hlookup, hunique⟩ := Registry.candidates_ranked mint (fun _ _ => none) int money
  have hfound : mint.candidates (fun _ _ => none) int money = mintFound := by rfl
  rw [hfound] at hlookup
  exact ⟨hlookup, hunique mintFound hlookup⟩

end Sample

end ObjectMapping
