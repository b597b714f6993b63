import ObjectMapping.Conversion

namespace ObjectMapping

namespace Candidate

def Before (a b : Candidate) : Prop :=
  a.converter.priority < b.converter.priority ∨
    (a.converter.priority = b.converter.priority ∧ a.converter.index < b.converter.index)

structure IsBest (best : Candidate) (cs : List Candidate) : Prop where
  mem : best ∈ cs
  lt : ∀ c ∈ cs, c ≠ best → best.converter.priority < c.converter.priority

theorem Before.priority_le {a b : Candidate} (h : a.Before b) :
    a.converter.priority ≤ b.converter.priority := by
  rcases h with h | ⟨h, _⟩
  · exact UInt32.le_of_lt h
  · exact UInt32.le_of_eq h

theorem Before.ne {a b : Candidate} (h : a.Before b) : a ≠ b := by
  rintro rfl
  rcases h with h | ⟨_, h⟩
  · exact UInt32.lt_irrefl _ h
  · exact Nat.lt_irrefl _ h

theorem insert_perm (c : Candidate) (cs : List Candidate) : (insert c cs).Perm (c :: cs) := by
  induction cs with
  | nil => exact List.Perm.refl _
  | cons first rest ih =>
    rw [insert]
    split
    · exact (ih.cons first).trans (List.Perm.swap c first rest)
    · exact List.Perm.refl _

/-- No candidate is lost or added by sorting. -/
theorem sort_perm (cs : List Candidate) : (sort cs).Perm cs := by
  induction cs with
  | nil => exact List.Perm.refl _
  | cons c rest ih => exact (insert_perm c (sort rest)).trans (ih.cons c)

/-- A candidate registered earlier than all others goes behind those of smaller priority only. -/
theorem insert_pairwise_before {c : Candidate} {cs : List Candidate}
    (hc : ∀ x ∈ cs, c.converter.index < x.converter.index) (hcs : cs.Pairwise Before) :
    (insert c cs).Pairwise Before := by
  induction cs with
  | nil => exact List.pairwise_singleton _ _
  | cons first rest ih =>
    obtain ⟨hfirst, hrest⟩ := List.pairwise_cons.mp hcs
    rw [insert]
    split
    · rename_i hlt
      refine List.pairwise_cons.mpr ⟨?_, ih (fun x hx => hc x (List.mem_cons_of_mem _ hx)) hrest⟩
      intro x hx
      rcases List.mem_cons.mp ((insert_perm c rest).mem_iff.mp hx) with rfl | hx
      · exact Or.inl hlt
      · exact hfirst x hx
    -- what is behind it has no smaller priority, and has been registered later
    · rename_i hnlt
      refine List.pairwise_cons.mpr ⟨?_, hcs⟩
      have hle : c.converter.priority ≤ first.converter.priority := UInt32.not_lt.mp hnlt
      intro x hx
      have hxle : c.converter.priority ≤ x.converter.priority := by
        rcases List.mem_cons.mp hx with rfl | hx
        · exact hle
        · exact UInt32.le_trans hle (hfirst x hx).priority_le
      rcases UInt32.lt_or_eq_of_le hxle with h | h
      · exact Or.inl h
      · exact Or.inr ⟨h, hc x hx⟩

/-- Sorted candidates are in the order of a look-up. -/
theorem sort_pairwise_before {cs : List Candidate}
    (hcs : cs.Pairwise fun a b => a.converter.index < b.converter.index) :
    (sort cs).Pairwise Before := by
  induction cs with
  | nil => exact List.Pairwise.nil
  | cons c rest ih =>
    obtain ⟨hc, hrest⟩ := List.pairwise_cons.mp hcs
    refine insert_pairwise_before ?_ (ih hrest)
    intro x hx
    exact hc x ((sort_perm rest).mem_iff.mp hx)

theorem isBest_congr {best : Candidate} {cs cs' : List Candidate} (h : ∀ c, c ∈ cs ↔ c ∈ cs') :
    best.IsBest cs ↔ best.IsBest cs' := by
  constructor
  · rintro ⟨hm, hl⟩
    exact ⟨(h best).mp hm, fun c hc => hl c ((h c).mpr hc)⟩
  · rintro ⟨hm, hl⟩
    exact ⟨(h best).mpr hm, fun c hc => hl c ((h c).mp hc)⟩

/-- In order of look-up the first candidate is the best one, unless the next has its priority. -/
theorem isBest_cons_iff {best first : Candidate} {rest : List Candidate}
    (h : (first :: rest).Pairwise Before) :
    best.IsBest (first :: rest) ↔
      best = first ∧ rest.takeWhile (·.converter.priority = first.converter.priority) = [] := by
  obtain ⟨hfirst, hrest⟩ := List.pairwise_cons.mp h
  constructor
  · rintro ⟨hm, hl⟩
    -- any other candidate has the first one before it
    have heq : best = first := by
      rcases List.mem_cons.mp hm with rfl | hm
      · rfl
      · have hlt := hl first List.mem_cons_self (hfirst best hm).ne
        exact absurd hlt (UInt32.not_lt.mpr (hfirst best hm).priority_le)
    subst heq
    refine ⟨rfl, ?_⟩
    cases rest with
    | nil => rfl
    | cons next rest =>
      have hnext := hfirst next List.mem_cons_self
      have hlt := hl next (List.mem_cons_of_mem _ List.mem_cons_self) hnext.ne.symm
      exact List.takeWhile_cons_of_neg (by simpa using (UInt32.ne_of_lt hlt).symm)
  · rintro ⟨rfl, htied⟩
    refine ⟨List.mem_cons_self, ?_⟩
    intro c hc hne
    cases rest with
    | nil => exact absurd (List.mem_singleton.mp hc) hne
    | cons next rest =>
      -- the next candidate is not tied, and all behind it are no better
      have hnext : best.converter.priority < next.converter.priority := by
        have hle := (hfirst next List.mem_cons_self).priority_le
        rcases UInt32.lt_or_eq_of_le hle with hlt | heq
        · exact hlt
        · rw [List.takeWhile_cons_of_pos (by simpa using heq.symm)] at htied
          cases htied
      rcases List.mem_cons.mp ((List.mem_cons.mp hc).resolve_left hne) with rfl | hc
      · exact hnext
      · have hafter := (List.pairwise_cons.mp hrest).1 c hc
        exact UInt32.lt_of_lt_of_le hnext hafter.priority_le

end Candidate

namespace Registry

/-- The converters that accept are found under their own places in the registry. -/
theorem mem_accepting {g : Registry} {resolve : ElementResolver} {s t : TypeRef}
    {cand : Candidate} :
    cand ∈ g.accepting resolve s t ↔
      ∃ (c : Converter) (i : Nat), g.converters[i]? = some c ∧ cand.converter = c.ref i ∧
        c.accepts resolve s t = some cand.elements := by
  simp only [accepting, List.mem_filterMap, Prod.exists, List.mk_mem_zipIdx_iff_getElem?,
    Option.map_eq_some_iff]
  constructor
  · rintro ⟨c, i, hc, es, hes, rfl⟩
    exact ⟨c, i, hc, rfl, hes⟩
  · rintro ⟨c, i, hc, href, hes⟩
    exact ⟨c, i, hc, cand.elements, hes, by rw [← href]⟩

/-- What is so throughout the registry in order is so among the converters that accept a pair. -/
theorem accepting_pairwise {g : Registry} {R : ConverterRef → ConverterRef → Prop}
    (h : g.refs.Pairwise R) (resolve : ElementResolver) (s t : TypeRef) :
    (g.accepting resolve s t).Pairwise fun a b => R a.converter b.converter := by
  rw [refs, List.pairwise_map] at h
  refine List.Pairwise.filterMap _ ?_ h
  rintro ⟨a, i⟩ ⟨b, j⟩ hij ca hca cb hcb
  obtain ⟨_, _, rfl⟩ := Option.map_eq_some_iff.mp hca
  obtain ⟨_, _, rfl⟩ := Option.map_eq_some_iff.mp hcb
  exact hij

theorem refs_pairwise_index (g : Registry) : g.refs.Pairwise fun a b => a.index < b.index := by
  have hidx : g.converters.zipIdx.Pairwise fun a b => a.2 < b.2 := by
    rw [← List.pairwise_map, List.zipIdx_map_snd]
    exact List.pairwise_lt_range'
  exact List.pairwise_map.mpr hidx

/-- The converters that accept are listed as they are registered. -/
theorem accepting_pairwise_index (g : Registry) (resolve : ElementResolver) (s t : TypeRef) :
    (g.accepting resolve s t).Pairwise fun a b => a.converter.index < b.converter.index :=
  accepting_pairwise g.refs_pairwise_index resolve s t

/-- The candidates are the converters that accept. -/
theorem mem_candidates {g : Registry} {resolve : ElementResolver} {s t : TypeRef}
    {cand : Candidate} :
    cand ∈ g.candidates resolve s t ↔ cand ∈ g.accepting resolve s t :=
  (Candidate.sort_perm _).mem_iff

theorem candidates_pairwise_before (g : Registry) (resolve : ElementResolver) (s t : TypeRef) :
    (g.candidates resolve s t).Pairwise Candidate.Before :=
  Candidate.sort_pairwise_before (accepting_pairwise_index g resolve s t)

end Registry

/-- A choice among candidates succeeds exactly with the best one. -/
theorem Resolver.choose_eq_ok_iff {s t : TypeRef} {nullHandling : NullHandling}
    {cs : List Candidate} {step : ConversionStep} (hcs : cs.Pairwise Candidate.Before) :
    choose s t nullHandling cs = .ok step ↔
      ∃ best : Candidate, best.IsBest cs ∧
        step = { source := s, target := t, nullHandling, converter := some best.converter,
                 elements := best.elements } := by
  cases cs with
  | nil =>
    constructor
    · intro h
      cases h
    · rintro ⟨best, hbest, _⟩
      cases hbest.mem
  | cons first rest =>
    simp only [Candidate.isBest_cons_iff hcs, choose]
    split
    · rename_i htied
      constructor
      · intro h
        exact ⟨first, ⟨rfl, htied⟩, (Except.ok.inj h).symm⟩
      · rintro ⟨_, ⟨rfl, _⟩, rfl⟩
        rfl
    · rename_i htied
      constructor
      · intro h
        cases h
      · rintro ⟨_, ⟨_, hnil⟩, _⟩
        exact absurd hnil htied

end ObjectMapping
