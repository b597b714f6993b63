import Mathlib.Tactic.Common
import ObjectMapping.Converter.Registry

namespace ObjectMapping

/-- `f.Extends g`: whatever `g` finds, `f` finds as well and with the same step. -/
def ElementResolver.Extends (f g : ElementResolver) : Prop :=
  ∀ s t step, g s t = some step → f s t = some step

namespace TypeRef

variable {t : TypeRef}

theorem isPlain_iff {name : String} :
    t.isPlain name = true ↔ t.arguments = [] ∧ t.simpleName = name := by
  simp [isPlain]

theorem isNumeric_iff :
    t.isNumeric = true ↔ t.arguments = [] ∧ t.simpleName ∈ numericNames := by
  simp [isNumeric]

theorem isIterable_iff : t.isIterable = true ↔ t.simpleName ∈ iterableNames := by
  simp [isIterable]

theorem isMap_iff : t.isMap = true ↔ t.simpleName ∈ mapNames := by
  simp [isMap]

end TypeRef

def BuiltIn.takes (s t : TypeRef) : BuiltIn → Bool
  | numberToNumber => s.isNumeric && t.isNumeric && s.simpleName != t.simpleName
  | textToNumber => s.isPlain "String" && t.isNumeric
  | textToBoolean => s.isPlain "String" && t.isPlain "Boolean"
  | iterableToIterable => s.isIterable && t.isIterable
  | mapToMap => s.isMap && t.isMap
  | anyToText => t.isPlain "String" && !s.isPlain "String"
  | anyToAny => t.isPlain "Any" && !s.isPlain "Any"

namespace Converter

def takes (s t : TypeRef) : Converter → Bool
  | builtIn rule => rule.takes s t
  | pattern _ source target _ => source.fits s && target.fits t

inductive Elements (resolve : ElementResolver) (s t : TypeRef) :
    Converter → List ConversionStep → Prop
  | iterable {a b : TypeRef} {e : ConversionStep} (hs : s.arguments = [a]) (ht : t.arguments = [b])
      (he : resolve a b = some e) : Elements resolve s t (builtIn .iterableToIterable) [e]
  | map {k v k' v' : TypeRef} {e e' : ConversionStep} (hs : s.arguments = [k, v])
      (ht : t.arguments = [k', v']) (hk : resolve k k' = some e) (hv : resolve v v' = some e') :
      Elements resolve s t (builtIn .mapToMap) [e, e']
  | leaf {c : Converter} (hi : c ≠ builtIn .iterableToIterable) (hm : c ≠ builtIn .mapToMap) :
      Elements resolve s t c []

variable {f g resolve : ElementResolver} {s t : TypeRef} {c : Converter}
  {es : List ConversionStep}

theorem Elements.extend (hfg : f.Extends g) (h : Elements g s t c es) : Elements f s t c es := by
  cases h with
  | iterable hs ht he => exact .iterable hs ht (hfg _ _ _ he)
  | map hs ht hk hv => exact .map hs ht (hfg _ _ _ hk) (hfg _ _ _ hv)
  | leaf hi hm => exact .leaf hi hm

theorem Elements.exists_pair (h : Elements resolve s t c es) {e : ConversionStep} (he : e ∈ es) :
    ∃ a b, resolve a b = some e := by
  cases h with
  | iterable _ _ hr =>
    rw [List.mem_singleton.mp he]
    exact ⟨_, _, hr⟩
  | map _ _ hk hv =>
    rcases List.mem_cons.mp he with rfl | he
    · exact ⟨_, _, hk⟩
    · rw [List.mem_singleton.mp he]
      exact ⟨_, _, hv⟩
  | leaf _ _ => cases he

/-- A converter that is not for containers accepts by the two types alone. -/
theorem accepts_eq_of_leaf (hi : c ≠ builtIn .iterableToIterable) (hm : c ≠ builtIn .mapToMap) :
    c.accepts resolve s t = if c.takes s t then some [] else none := by
  cases c with
  | builtIn rule =>
    cases rule with
    | iterableToIterable => exact absurd rfl hi
    | mapToMap => exact absurd rfl hm
    | _ => rfl
  | pattern _ _ _ _ => rfl

/-- Iterables are accepted if their elements can be converted. -/
theorem iterableToIterable_accepts_iff :
    (builtIn .iterableToIterable).accepts resolve s t = some es ↔
      (builtIn .iterableToIterable).takes s t = true ∧
        Elements resolve s t (builtIn .iterableToIterable) es := by
  constructor
  · intro h
    simp only [accepts, BuiltIn.accepts] at h
    split at h
    · rename_i htakes
      refine ⟨htakes, ?_⟩
      split at h
      · rename_i a b hs ht
        cases he : resolve a b with
        | none => simp [he] at h
        | some e =>
          have hes : [e] = es := by simpa [he] using h
          exact hes ▸ .iterable hs ht he
      · cases h
    · cases h
  · rintro ⟨htakes, h⟩
    have hshape : (s.isIterable && t.isIterable) = true := htakes
    cases h with
    | iterable hs ht he => simp [accepts, BuiltIn.accepts, hshape, hs, ht, he]
    | leaf hi _ => exact absurd rfl hi

/-- Maps are accepted if both their keys and their values can be converted. -/
theorem mapToMap_accepts_iff :
    (builtIn .mapToMap).accepts resolve s t = some es ↔
      (builtIn .mapToMap).takes s t = true ∧ Elements resolve s t (builtIn .mapToMap) es := by
  constructor
  · intro h
    simp only [accepts, BuiltIn.accepts] at h
    split at h
    · rename_i htakes
      refine ⟨htakes, ?_⟩
      split at h
      · rename_i k v k' v' hs ht
        cases hk : resolve k k' with
        | none => simp [hk] at h
        | some e =>
          cases hv : resolve v v' with
          | none => simp [hk, hv] at h
          | some e' =>
            have hes : [e, e'] = es := by simpa [hk, hv] using h
            exact hes ▸ .map hs ht hk hv
      · cases h
    · cases h
  · rintro ⟨htakes, h⟩
    have hshape : (s.isMap && t.isMap) = true := htakes
    cases h with
    | map hs ht hk hv => simp [accepts, BuiltIn.accepts, hshape, hs, ht, hk, hv]
    | leaf _ hm => exact absurd rfl hm

/-- A converter accepts a pair exactly if it is for the two types and its elements are found. -/
theorem accepts_iff :
    c.accepts resolve s t = some es ↔ c.takes s t = true ∧ Elements resolve s t c es := by
  by_cases hi : c = builtIn .iterableToIterable
  · subst hi
    exact iterableToIterable_accepts_iff
  by_cases hm : c = builtIn .mapToMap
  · subst hm
    exact mapToMap_accepts_iff
  rw [accepts_eq_of_leaf hi hm]
  constructor
  · intro h
    split at h
    · rename_i htakes
      cases h
      exact ⟨htakes, .leaf hi hm⟩
    · cases h
  · rintro ⟨htakes, h⟩
    cases h with
    | leaf _ _ => exact if_pos htakes
    | iterable _ _ _ => exact absurd rfl hi
    | map _ _ _ _ => exact absurd rfl hm

/-- Whoever finds more elements keeps every acceptance, with the same elements. -/
theorem accepts_extend (hfg : f.Extends g) (h : c.accepts g s t = some es) :
    c.accepts f s t = some es := by
  obtain ⟨htakes, hes⟩ := accepts_iff.mp h
  exact accepts_iff.mpr ⟨htakes, hes.extend hfg⟩

end Converter

namespace BuiltIn

/-- The one built-in converter that comes into question, by the simple names of the types. -/
def only (source target : String) : BuiltIn :=
  if target = "String" then anyToText
  else if target = "Any" then anyToAny
  else if target = "Boolean" then textToBoolean
  else if target ∈ TypeRef.iterableNames then iterableToIterable
  else if target ∈ TypeRef.mapNames then mapToMap
  else if source = "String" then textToNumber
  else numberToNumber

theorem only_of_numeric (source : String) :
    ∀ target ∈ TypeRef.numericNames,
      only source target = if source = "String" then textToNumber else numberToNumber := by
  simp [only, TypeRef.numericNames, TypeRef.iterableNames, TypeRef.mapNames]

theorem only_of_iterable (source : String) :
    ∀ target ∈ TypeRef.iterableNames, only source target = iterableToIterable := by
  simp [only, TypeRef.iterableNames]

theorem only_of_map (source : String) :
    ∀ target ∈ TypeRef.mapNames, only source target = mapToMap := by
  simp [only, TypeRef.iterableNames, TypeRef.mapNames]

/-- At most one built-in converter is for a pair of types. -/
theorem eq_only_of_takes {rule : BuiltIn} {s t : TypeRef} (h : rule.takes s t = true) :
    rule = only s.simpleName t.simpleName := by
  -- the target tells the rules apart, but for the two that end at numbers
  cases rule with
  | numberToNumber =>
    simp only [takes, Bool.and_eq_true, TypeRef.isNumeric_iff] at h
    obtain ⟨⟨⟨_, hs⟩, _, ht⟩, _⟩ := h
    have hne : s.simpleName ≠ "String" := by
      intro heq
      rw [heq] at hs
      exact absurd hs (by decide)
    rw [only_of_numeric _ _ ht, if_neg hne]
  | textToNumber =>
    simp only [takes, Bool.and_eq_true, TypeRef.isPlain_iff, TypeRef.isNumeric_iff] at h
    obtain ⟨⟨_, hs⟩, _, ht⟩ := h
    rw [only_of_numeric _ _ ht, if_pos hs]
  | textToBoolean =>
    simp only [takes, Bool.and_eq_true, TypeRef.isPlain_iff] at h
    obtain ⟨_, _, ht⟩ := h
    rw [ht]
    rfl
  | iterableToIterable =>
    simp only [takes, Bool.and_eq_true, TypeRef.isIterable_iff] at h
    exact (only_of_iterable _ _ h.2).symm
  | mapToMap =>
    simp only [takes, Bool.and_eq_true, TypeRef.isMap_iff] at h
    exact (only_of_map _ _ h.2).symm
  | anyToText =>
    simp only [takes, Bool.and_eq_true, TypeRef.isPlain_iff] at h
    obtain ⟨⟨_, ht⟩, _⟩ := h
    rw [ht]
    rfl
  | anyToAny =>
    simp only [takes, Bool.and_eq_true, TypeRef.isPlain_iff] at h
    obtain ⟨⟨_, ht⟩, _⟩ := h
    rw [ht]
    rfl

end BuiltIn

end ObjectMapping
