import ObjectMapping.Config.Basic
import ObjectMapping.Proofs.Conversion.Extension
import ObjectMapping.Proofs.Conversion.Nullability

namespace ObjectMapping

namespace Registry

variable {g : Registry} {resolve : ElementResolver} {s t : TypeRef} {a b : Candidate}

structure BuiltInOnce (g : Registry) : Prop where
  builtIn : ∀ c ∈ g.converters, ∃ rule, c = .builtIn rule
  nodup : g.converters.Nodup

theorem standard_builtInOnce : BuiltInOnce standard := by
  constructor
  case builtIn =>
    intro c hc
    obtain ⟨rule, _, rfl⟩ := List.mem_map.mp hc
    exact ⟨rule, rfl⟩
  case nodup =>
    have hall : BuiltIn.all.Nodup := by decide
    exact hall.map fun _ _ heq => Converter.builtIn.inj heq

/-- Converters are not registered twice if others are left out. -/
theorem BuiltInOnce.filterNames (hg : BuiltInOnce g) (keep : String → Bool) :
    BuiltInOnce (g.filterNames keep) := by
  constructor
  case builtIn =>
    intro c hc
    exact hg.builtIn c (List.mem_of_mem_filter hc)
  case nodup => exact hg.nodup.filter _

/-- Two candidates are by the same rule, which has one place, and hence have the same elements. -/
theorem BuiltInOnce.eq_of_mem_accepting (hg : BuiltInOnce g) (ha : a ∈ g.accepting resolve s t)
    (hb : b ∈ g.accepting resolve s t) : a = b := by
  obtain ⟨c, i, hc, href, hacc⟩ := mem_accepting.mp ha
  obtain ⟨d, j, hd, href', hacc'⟩ := mem_accepting.mp hb
  obtain ⟨rule, rfl⟩ := hg.builtIn c (List.mem_of_getElem? hc)
  obtain ⟨rule', rfl⟩ := hg.builtIn d (List.mem_of_getElem? hd)
  have hrule : rule = rule' := Converter.eq_of_accepts hacc hacc'
  subst hrule
  have hplace : i = j := by
    obtain ⟨hi, _⟩ := List.getElem?_eq_some_iff.mp hc
    exact (List.getElem?_inj hi hg.nodup).mp (hc.trans hd.symm)
  subst hplace
  have hconverter : a.converter = b.converter := href.trans href'.symm
  have helements : a.elements = b.elements := Option.some.inj (hacc.symm.trans hacc')
  calc
    a = ⟨a.converter, a.elements⟩ := rfl
    _ = ⟨b.converter, b.elements⟩ := by rw [hconverter, helements]
    _ = b := rfl

/-- No two of the built-in converters accept the same pair of types. -/
theorem BuiltInOnce.length_accepting_le (hg : BuiltInOnce g) (resolve : ElementResolver)
    (s t : TypeRef) : (g.accepting resolve s t).length ≤ 1 := by
  have hindex := g.accepting_pairwise_index resolve s t
  cases haccepting : g.accepting resolve s t with
  | nil => exact Nat.zero_le 1
  | cons first rest =>
    cases rest with
    | nil => exact Nat.le_refl 1
    | cons second rest =>
      rw [haccepting] at hindex
      have hlt : first.converter.index < second.converter.index :=
        (List.pairwise_cons.mp hindex).1 second List.mem_cons_self
      have heq : first = second := by
        apply hg.eq_of_mem_accepting <;> rw [haccepting]
        · exact List.mem_cons_self
        · exact List.mem_cons_of_mem _ List.mem_cons_self
      rw [heq] at hlt
      exact absurd hlt (Nat.lt_irrefl _)

theorem BuiltInOnce.length_candidates_le (hg : BuiltInOnce g) (resolve : ElementResolver)
    (s t : TypeRef) : (g.candidates resolve s t).length ≤ 1 := by
  rw [candidates, (Candidate.sort_perm _).length_eq]
  exact hg.length_accepting_le resolve s t

end Registry

namespace Resolver

variable {r : Resolver} {levels : Nat} {s t a b : TypeRef} {names : List String}

/-- A tie needs two candidates. -/
theorem two_le_of_verdict_eq_ambiguous {nullHandling : NullHandling} {cs : List Candidate}
    (h : verdict s t nullHandling cs = .error (.ambiguousConverter a b names)) : 2 ≤ cs.length := by
  match cs with
  | [] => cases h
  | [only] => cases h
  | first :: second :: rest =>
    simp only [List.length_cons]
    omega

/-- A tie takes two converters that accept the types without outer null. -/
theorem two_le_of_ambiguous
    (h : r.resolveWithin levels s t = .error (.ambiguousConverter a b names)) :
    ∃ inner, 2 ≤ (r.acceptingWithin inner s t).length := by
  -- a tie comes neither of null nor of types that agree, and not without a level
  cases hb : r.bridge s t with
  | error reason =>
    rw [resolveWithin_of_bridge_eq_error hb] at h
    obtain ⟨_, _, _, rfl⟩ := bridge_eq_error_iff.mp hb
    cases h
  | ok nullHandling =>
    by_cases hne : s.toNonNull = t.toNonNull
    · obtain ⟨step, hstep⟩ := exists_of_toNonNull_eq levels hne hb
      rw [hstep] at h
      cases h
    cases levels with
    | zero =>
      rw [resolveWithin_zero hne hb] at h
      cases h
    | succ inner =>
      rw [resolveWithin_eq_verdict hne hb] at h
      have hleading := two_le_of_verdict_eq_ambiguous h
      have hle : (Candidate.leading (r.acceptingWithin inner s t)).length ≤
          (r.acceptingWithin inner s t).length := List.length_filter_le _ _
      exact ⟨inner, hleading.trans hle⟩

/-- Whichever built-in converters are left out, at most one of the others accepts a pair of types,
and so no conversion is ever refused for a tie, in however deep a container. -/
theorem standard_unambiguous (c : Config) :
    (∀ (resolve : ElementResolver) (s t : TypeRef),
      ((Registry.standard.filterNames c.enables).candidates resolve s t).length ≤ 1) ∧
    ∀ (enforceNotNull : Bool) (levels : Nat) (s t a b : TypeRef) (names : List String),
      Resolver.resolveWithin ⟨Registry.standard.filterNames c.enables, enforceNotNull⟩ levels s t ≠
        .error (.ambiguousConverter a b names) := by
  have hg := Registry.standard_builtInOnce.filterNames c.enables
  constructor
  · exact hg.length_candidates_le
  · intro enforceNotNull levels s t a b names h
    obtain ⟨inner, htwo⟩ := two_le_of_ambiguous h
    have hone := hg.length_accepting_le
      (Resolver.elementsWithin ⟨Registry.standard.filterNames c.enables, enforceNotNull⟩ inner)
      s.toNonNull t.toNonNull
    exact absurd (htwo.trans hone) (by decide)

end Resolver

end ObjectMapping
