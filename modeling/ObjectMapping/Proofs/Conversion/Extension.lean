import ObjectMapping.Proofs.Conversion.Derivation

namespace ObjectMapping

def Registry.PatternsFirst (g : Registry) : Prop :=
  ∀ name source target priority,
    Converter.pattern name source target priority ∈ g.converters →
      priority < BuiltIn.structuralPriority

namespace Registry

theorem standard_patternsFirst : PatternsFirst standard := by
  intro name source target priority h
  obtain ⟨rule, _, hrule⟩ := List.mem_map.mp h
  cases hrule

/-- One more pattern may come in as long as it goes before the built-in converters. -/
theorem PatternsFirst.register {g : Registry} (hg : g.PatternsFirst) (name : String)
    (source target : TypePattern) {priority : UInt32} (hlt : priority < BuiltIn.structuralPriority) :
    (g.register (.pattern name source target priority)).PatternsFirst := by
  intro name' source' target' priority' h
  rcases List.mem_append.mp h with hold | hnew
  · exact hg name' source' target' priority' hold
  · cases List.mem_singleton.mp hnew
    exact hlt

end Registry

namespace Converter

/-- Only converters between containers depend on how elements are converted. -/
theorem container_of_accepts_ne {f g : ElementResolver} {s t : TypeRef} {c : Converter}
    (h : c.accepts f s t ≠ c.accepts g s t) :
    ∃ rule, c = builtIn rule ∧ rule.priority = BuiltIn.structuralPriority := by
  by_cases hi : c = builtIn .iterableToIterable
  · exact ⟨_, hi, rfl⟩
  by_cases hm : c = builtIn .mapToMap
  · exact ⟨_, hm, rfl⟩
  rw [accepts_eq_of_leaf hi hm, accepts_eq_of_leaf hi hm] at h
  exact absurd rfl h

/-- Two built-in converters that accept a pair of types are the same. -/
theorem eq_of_accepts {f g : ElementResolver} {s t : TypeRef} {rule rule' : BuiltIn}
    {es es' : List ConversionStep} (h : (builtIn rule).accepts f s t = some es)
    (h' : (builtIn rule').accepts g s t = some es') : rule = rule' := by
  have htakes : rule.takes s t = true := (accepts_iff.mp h).1
  have htakes' : rule'.takes s t = true := (accepts_iff.mp h').1
  rw [BuiltIn.eq_only_of_takes htakes, BuiltIn.eq_only_of_takes htakes']

end Converter

namespace Registry

variable {g : Registry} {f f' : ElementResolver} {s t : TypeRef} {best : Candidate}

/-- What accepts a pair of types still does if more elements can be converted. -/
theorem accepting_extend (hext : f.Extends f') {c : Candidate} (hc : c ∈ g.accepting f' s t) :
    c ∈ g.accepting f s t := by
  obtain ⟨conv, i, hconv, href, hacc⟩ := mem_accepting.mp hc
  exact mem_accepting.mpr ⟨conv, i, hconv, href, Converter.accepts_extend hext hacc⟩

/-- A candidate that joins when more elements are found goes behind the best one so far. -/
theorem priority_lt_of_joins (hg : g.PatternsFirst) (hext : f.Extends f')
    (hbest : best ∈ g.accepting f' s t) {c : Candidate} (hc : c ∈ g.accepting f s t)
    (hnew : c ∉ g.accepting f' s t) : best.converter.priority < c.converter.priority := by
  obtain ⟨conv, i, hconv, href, hacc⟩ := mem_accepting.mp hc
  obtain ⟨bconv, j, hbconv, hbref, hbacc⟩ := mem_accepting.mp hbest
  have hnone : conv.accepts f' s t = none := by
    cases hacc' : conv.accepts f' s t with
    | none => rfl
    | some es =>
      have hes : c.elements = es :=
        Option.some.inj (hacc.symm.trans (Converter.accepts_extend hext hacc'))
      exact absurd (mem_accepting.mpr ⟨conv, i, hconv, href, hes ▸ hacc'⟩) hnew
  have hne : conv.accepts f s t ≠ conv.accepts f' s t := by simp [hacc, hnone]
  obtain ⟨rule, rfl, hpriority⟩ := Converter.container_of_accepts_ne hne
  rw [href, hbref]
  -- a built-in converter that was best would be the very one that joins
  cases bconv with
  | pattern name source target priority =>
    have hlt := hg name source target priority (List.mem_of_getElem? hbconv)
    rwa [← hpriority] at hlt
  | builtIn rule' =>
    rw [Converter.eq_of_accepts hacc hbacc, hbacc] at hnone
    cases hnone

/-- The best candidate stays the best, since only built-in ones can join it, behind all patterns. -/
theorem isBest_extend (hg : g.PatternsFirst) (hext : f.Extends f')
    (hbest : best.IsBest (g.accepting f' s t)) : best.IsBest (g.accepting f s t) := by
  refine ⟨accepting_extend hext hbest.mem, ?_⟩
  intro c hc hne
  by_cases hold : c ∈ g.accepting f' s t
  · exact hbest.lt c hold hne
  · exact priority_lt_of_joins hg hext hbest.mem hc hold

end Registry

namespace Resolver

variable {r r' : Resolver} {inner levels : Nat} {s t : TypeRef} {step : ConversionStep}

/-- What one resolver finds another finds in the same way, if it has the same converters, deals with
null wherever the first does and may go at least as deep. -/
theorem Converts.extend (h : r.Converts inner s t step) (hg : r.registry.PatternsFirst)
    (hregistry : r'.registry = r.registry)
    (hbridge : ∀ a b nullHandling, r.bridge a b = .ok nullHandling →
      r'.bridge a b = .ok nullHandling)
    (hle : inner ≤ levels) : r'.Converts levels s t step := by
  -- elements are found one level further in by both
  induction inner generalizing levels s t step with
  | zero =>
    cases h with
    | same => exact .same levels s
    | bridged _ hne hb heq => exact .bridged levels hne (hbridge _ _ _ hb) heq
  | succ inner ih =>
    cases h with
    | same => exact .same levels s
    | bridged _ hne hb heq => exact .bridged levels hne (hbridge _ _ _ hb) heq
    | converted hb hne hbest =>
      obtain ⟨outer, rfl⟩ : ∃ outer, levels = outer + 1 :=
        Nat.exists_eq_add_one_of_ne_zero (Nat.ne_of_gt (Nat.lt_of_lt_of_le inner.succ_pos hle))
      have hext : (r'.elementsWithin outer).Extends (r.elementsWithin inner) := by
        intro a b e he
        rw [elementsWithin_eq_some_iff, resolveWithin_eq_ok_iff] at he ⊢
        exact ih he (Nat.le_of_succ_le_succ hle)
      have hbest' := Registry.isBest_extend hg hext hbest
      rw [← hregistry] at hbest'
      exact .converted (hbridge _ _ _ hb) hne hbest'

end Resolver

end ObjectMapping
