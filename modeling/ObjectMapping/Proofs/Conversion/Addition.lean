import ObjectMapping.Proofs.Conversion.Nullability

/-!
One more converter. What converts without it converts with it or is refused for a tie at the types
themselves, with one exception: a tie between elements is not told. It makes the converter of the
container inapplicable, and the container may be left without any.
-/

namespace ObjectMapping

namespace Converter

variable {f g : ElementResolver} {s t : TypeRef} {c : Converter} {es : List ConversionStep}

/-- A converter that has its elements keeps accepting while something is found for each of them. -/
theorem Elements.exists_of_found (h : Elements g s t c es)
    (hfound : ∀ a b e, e ∈ es → g a b = some e → ∃ e', f a b = some e') :
    ∃ es', Elements f s t c es' := by
  cases h with
  | iterable hs ht he =>
    obtain ⟨e', he'⟩ := hfound _ _ _ List.mem_cons_self he
    exact ⟨[e'], .iterable hs ht he'⟩
  | map hs ht hk hv =>
    obtain ⟨k', hk'⟩ := hfound _ _ _ List.mem_cons_self hk
    obtain ⟨v', hv'⟩ := hfound _ _ _ (List.mem_cons_of_mem _ List.mem_cons_self) hv
    exact ⟨[k', v'], .map hs ht hk' hv'⟩
  | leaf hi hm => exact ⟨[], .leaf hi hm⟩

end Converter

namespace Resolver

variable {r : Resolver} {c : Converter} {inner levels : Nat} {s t : TypeRef}
  {step : ConversionStep} {nullHandling : NullHandling}

def register (r : Resolver) (c : Converter) : Resolver :=
  { r with registry := r.registry.register c }

/-- Several converters accept the two types with the best priority, and the conversion is refused
with the names of all of these. -/
structure Tied (r : Resolver) (inner : Nat) (s t : TypeRef) : Prop where
  several : 2 ≤ (Candidate.leading (r.acceptingWithin inner s t)).length
  refused : r.resolveWithin (inner + 1) s t =
    .error (.ambiguousConverter s t
      ((Candidate.leading (r.acceptingWithin inner s t)).map (·.converter.name)))

/-- There is a conversion, a tie, or no converter that accepts the types. -/
theorem resolveWithin_outcomes (inner : Nat) (hne : s.toNonNull ≠ t.toNonNull)
    (hb : r.bridge s t = .ok nullHandling) :
    (∃ step, r.resolveWithin (inner + 1) s t = .ok step) ∨ r.Tied inner s t ∨
      (r.resolveWithin (inner + 1) s t = .error (.noConverter s t) ∧
        r.acceptingWithin inner s t = []) := by
  have hverdict : r.resolveWithin (inner + 1) s t =
      verdict s t nullHandling (Candidate.leading (r.acceptingWithin inner s t)) :=
    resolveWithin_eq_verdict hne hb
  cases hleading : Candidate.leading (r.acceptingWithin inner s t) with
  | nil =>
    have hnone : r.acceptingWithin inner s t = [] :=
      (Candidate.leading_eq_nil_iff (r.acceptingWithin_pairwise_index inner s t)).mp hleading
    rw [hleading] at hverdict
    exact Or.inr (Or.inr ⟨hverdict, hnone⟩)
  | cons first rest =>
    cases rest with
    | nil =>
      rw [hleading] at hverdict
      exact Or.inl ⟨_, hverdict⟩
    | cons second rest =>
      have hseveral : 2 ≤ (Candidate.leading (r.acceptingWithin inner s t)).length := by
        rw [hleading, List.length_cons, List.length_cons]
        omega
      refine Or.inr (Or.inl ⟨hseveral, ?_⟩)
      rw [hverdict, hleading]
      rfl

/-- With no level left converters do not count. -/
theorem resolveWithin_zero_register (r : Resolver) (c : Converter) (s t : TypeRef) :
    (r.register c).resolveWithin 0 s t = r.resolveWithin 0 s t := by
  unfold resolveWithin
  rfl

/-- Converters keep their places, and so one that accepts still does if its elements are found. -/
theorem acceptingWithin_register_ne_nil {best : Candidate}
    (hbest : best ∈ r.acceptingWithin inner s t)
    (hfound : ∀ e ∈ best.elements, ∃ e', (r.register c).resolveWithin inner e.source e.target =
      .ok e') :
    (r.register c).acceptingWithin inner s t ≠ [] := by
  obtain ⟨conv, i, hconv, _, hacc⟩ := Registry.mem_accepting.mp hbest
  obtain ⟨htakes, helements⟩ := Converter.accepts_iff.mp hacc
  -- the new converter comes behind all others
  have hplace : (r.register c).registry.converters[i]? = some conv := by
    obtain ⟨hi, _⟩ := List.getElem?_eq_some_iff.mp hconv
    exact (List.getElem?_append_left hi).trans hconv
  obtain ⟨es, hes⟩ : ∃ es, Converter.Elements ((r.register c).elementsWithin inner)
      s.toNonNull t.toNonNull conv es := by
    refine helements.exists_of_found ?_
    intro a b e he hab
    have hconverts := resolveWithin_eq_ok_iff.mp (elementsWithin_eq_some_iff.mp hab)
    obtain ⟨e', he'⟩ := hfound e he
    rw [hconverts.source_eq, hconverts.target_eq] at he'
    exact ⟨e', elementsWithin_eq_some_iff.mpr he'⟩
  have hmem : ⟨conv.ref i, es⟩ ∈ (r.register c).acceptingWithin inner s t :=
    Registry.mem_accepting.mpr ⟨conv, i, hplace, rfl, Converter.accepts_iff.mpr ⟨htakes, hes⟩⟩
  exact List.ne_nil_of_mem hmem

/-- One level: while something is found for every element, the types convert or are tied. Without a
converter they are left only if some element is not found any more. -/
theorem resolveWithin_register (h : r.resolveWithin (inner + 1) s t = .ok step) :
    (∃ step', (r.register c).resolveWithin (inner + 1) s t = .ok step') ∨
    (r.register c).Tied inner s t ∨
    ((r.register c).resolveWithin (inner + 1) s t = .error (.noConverter s t) ∧
      ∃ e ∈ step.elements, r.resolveWithin inner e.source e.target = .ok e ∧
        ¬ ∃ e', (r.register c).resolveWithin inner e.source e.target = .ok e') := by
  have hconv := resolveWithin_eq_ok_iff.mp h
  cases hconv with
  | same => exact Or.inl ⟨_, resolveWithin_eq_ok_iff.mpr (.same _ s)⟩
  | bridged _ hst hb heq => exact Or.inl ⟨_, resolveWithin_eq_ok_iff.mpr (.bridged _ hst hb heq)⟩
  | @converted _ _ _ _ best hb hne hbest =>
    have hb' : (r.register c).bridge s t = .ok _ := hb
    rcases resolveWithin_outcomes inner hne hb' with hok | htied | ⟨hnone, hempty⟩
    · exact Or.inl hok
    · exact Or.inr (Or.inl htied)
    · refine Or.inr (Or.inr ⟨hnone, ?_⟩)
      -- if all elements were still found, the converter that was best would accept as before
      by_contra hall
      refine acceptingWithin_register_ne_nil hbest.mem ?_ hempty
      intro e he
      by_contra hlost
      obtain ⟨_, hinner, hconverts⟩ := (resolveWithin_eq_ok_iff.mp h).element he
      obtain rfl := Nat.succ.inj hinner
      exact hall ⟨e, he, resolveWithin_eq_ok_iff.mpr hconverts, hlost⟩

/-- At the level of elements nothing is lost but by a tie: their own elements are found without any
converter. -/
theorem resolveWithin_one_register (h : r.resolveWithin 1 s t = .ok step) :
    (∃ step', (r.register c).resolveWithin 1 s t = .ok step') ∨ (r.register c).Tied 0 s t := by
  rcases resolveWithin_register (c := c) h with hok | htied | ⟨_, e, _, hfound, hlost⟩
  · exact Or.inl hok
  · exact Or.inr htied
  · rw [resolveWithin_zero_register] at hlost
    exact absurd ⟨e, hfound⟩ hlost

/-- With one more converter a conversion still succeeds, or it is refused for a tie between the two
types, with the names of all tied converters, or an element of it is tied. Only in the last case
there may be no converter left. -/
theorem resolve_register (r : Resolver) (c : Converter) (s t : TypeRef) (step : ConversionStep)
    (h : r.resolve s t = .ok step) :
    (∃ step', (r.register c).resolve s t = .ok step') ∨
    (r.register c).Tied 1 s t ∨
    ((r.register c).resolve s t = .error (.noConverter s t) ∧
      ∃ e ∈ step.elements, (r.register c).Tied 0 e.source e.target) := by
  rcases resolveWithin_register (c := c) h with hok | htied | ⟨hnone, e, he, hfound, hlost⟩
  · exact Or.inl hok
  · exact Or.inr (Or.inl htied)
  · have htied : (r.register c).Tied 0 e.source e.target :=
      (resolveWithin_one_register hfound).resolve_left hlost
    exact Or.inr (Or.inr ⟨hnone, e, he, htied⟩)

end Resolver

namespace Sample

def narrowing : Converter :=
  .pattern "ExactInt" (.named "Long" []) (.named "Int" []) 3000

def countsOf (number : String) : TypeRef := { name := "List", arguments := [{ name := number }] }

def countsStep : ConversionStep where
  source := countsOf "Long"
  target := countsOf "Int"
  nullHandling := .none
  converter := some ⟨3, "IterableToIterable", 3000⟩
  elements :=
    [{ source := { name := "Long" }
       target := { name := "Int" }
       nullHandling := .none
       converter := some ⟨0, "NumberToNumber", 3000⟩ }]

/-- Lists of numbers convert until a second converter between their elements is registered. Then no
converter is said to accept the lists, and no tie is told. -/
theorem counts_unconvertible :
    Resolver.resolve ⟨.standard, false⟩ (countsOf "Long") (countsOf "Int") = .ok countsStep ∧
      ¬((∃ step, (Resolver.register ⟨.standard, false⟩ narrowing).resolve (countsOf "Long")
            (countsOf "Int") = .ok step) ∨
        ∃ a b names, (Resolver.register ⟨.standard, false⟩ narrowing).resolve (countsOf "Long")
            (countsOf "Int") = .error (.ambiguousConverter a b names)) := by
  have hlost : (Resolver.register ⟨.standard, false⟩ narrowing).resolve (countsOf "Long")
      (countsOf "Int") = .error (.noConverter (countsOf "Long") (countsOf "Int")) := by rfl
  refine ⟨by rfl, ?_⟩
  rw [hlost]
  rintro (⟨_, ⟨⟩⟩ | ⟨_, _, _, ⟨⟩⟩)

/-- The reason is the tie between the elements. -/
theorem counts_tied :
    Resolver.resolve ⟨.standard, false⟩ (countsOf "Long") (countsOf "Int") = .ok countsStep ∧
      (Resolver.register ⟨.standard, false⟩ narrowing).resolve (countsOf "Long") (countsOf "Int") =
        .error (.noConverter (countsOf "Long") (countsOf "Int")) ∧
      ∃ e ∈ countsStep.elements,
        (Resolver.register ⟨.standard, false⟩ narrowing).Tied 0 e.source e.target := by
  have hlost : (Resolver.register ⟨.standard, false⟩ narrowing).resolve (countsOf "Long")
      (countsOf "Int") = .error (.noConverter (countsOf "Long") (countsOf "Int")) := by rfl
  have hcases := Resolver.resolve_register ⟨.standard, false⟩ narrowing (countsOf "Long")
    (countsOf "Int") countsStep (by rfl)
  rcases hcases with ⟨_, hok⟩ | htied | ⟨hnone, htied⟩
  · rw [hlost] at hok
    cases hok
  · exact absurd (hlost.symm.trans htied.refused) (by intro h; cases h)
  · exact ⟨by rfl, hnone, htied⟩

end Sample

end ObjectMapping
