import Mathlib.Data.List.Forall2
import ObjectMapping.Proofs.Conversion.Extension

namespace ObjectMapping

namespace Converter

variable {resolve : ElementResolver} {s t : TypeRef} {c : Converter} {es : List ConversionStep}

/-- The elements are what is found for the type arguments, pair by pair. -/
theorem Elements.forall₂ (h : Elements resolve s t c es) (hne : es ≠ []) :
    List.Forall₂ (fun (p : TypeRef × TypeRef) e => resolve p.1 p.2 = some e)
      (s.arguments.zip t.arguments) es := by
  cases h with
  | iterable hs ht he =>
    rw [hs, ht]
    exact .cons he .nil
  | map hs ht hk hv =>
    rw [hs, ht]
    exact .cons hk (.cons hv .nil)
  | leaf => exact absurd rfl hne

end Converter

namespace Resolver

variable {r : Resolver} {inner levels : Nat} {s t : TypeRef} {step : ConversionStep}

/-- One that may go deeper finds the same. -/
theorem resolveWithin_mono (hr : r.registry.PatternsFirst) (hle : inner ≤ levels)
    (h : r.resolveWithin inner s t = .ok step) : r.resolveWithin levels s t = .ok step := by
  have hconv : r.Converts inner s t step := resolveWithin_eq_ok_iff.mp h
  have hdeeper : r.Converts levels s t step := hconv.extend hr rfl (fun _ _ _ hb => hb) hle
  exact resolveWithin_eq_ok_iff.mpr hdeeper

/-- The elements of a conversion convert the type arguments, pair by pair and one level further
in. -/
theorem Converts.forall₂_elements (h : r.Converts levels s t step) (hne : step.elements ≠ []) :
    List.Forall₂
      (fun (p : TypeRef × TypeRef) e => r.resolveWithin (levels - 1) p.1 p.2 = .ok e)
      (s.arguments.zip t.arguments) step.elements := by
  cases h with
  | same => exact absurd rfl hne
  | bridged => exact absurd rfl hne
  | converted _ _ hbest =>
    obtain ⟨c, _, _, _, hacc⟩ := Registry.mem_accepting.mp hbest.mem
    have helements := (Converter.accepts_iff.mp hacc).2.forall₂ hne
    exact helements.imp fun _ _ he => elementsWithin_eq_some_iff.mp he

/-- What converts inside a container converts in the same way outside it, at every depth. So the
elements of a conversion are what the type arguments on their own are converted by. -/
theorem resolve_inside (r : Resolver) (hr : r.registry.PatternsFirst) :
    (∀ inner levels s t step, inner ≤ levels → r.resolveWithin inner s t = .ok step →
      r.resolveWithin levels s t = .ok step) ∧
    ∀ s t step, r.resolve s t = .ok step → step.elements ≠ [] →
      List.Forall₂ (fun (p : TypeRef × TypeRef) e => r.resolve p.1 p.2 = .ok e)
        (s.arguments.zip t.arguments) step.elements := by
  constructor
  · intro inner levels s t step hle h
    exact resolveWithin_mono hr hle h
  · intro s t step h hne
    have helements := (resolveWithin_eq_ok_iff.mp h).forall₂_elements hne
    refine helements.imp ?_
    intro p e he
    exact resolveWithin_mono hr (Nat.sub_le maxLevels 1) he

end Resolver

namespace Sample

def translating : Resolver :=
  ⟨.register .standard (.pattern "CodeToText" (.named "Code" []) (.named "String" []) 1000), true⟩

def codeStep : ConversionStep where
  source := { name := "Code" }
  target := { name := "String" }
  nullHandling := .none
  converter := some ⟨7, "CodeToText", 1000⟩

def price : TypeRef := { name := "Long" }

def pricesStep : ConversionStep where
  source := { name := "List", arguments := [price.toNullable] }
  target := { name := "List", arguments := [price] }
  nullHandling := .none
  converter := some ⟨3, "IterableToIterable", 3000⟩
  elements := [.direct price.toNullable price .unsafeUnwrap]

def tariffStep : ConversionStep where
  source := { name := "Map", arguments := [codeStep.source, pricesStep.source] }
  target := { name := "Map", arguments := [codeStep.target, pricesStep.target] }
  nullHandling := .none
  converter := some ⟨4, "MapToMap", 3000⟩
  elements := [codeStep, pricesStep]

theorem translating_patternsFirst : translating.registry.PatternsFirst :=
  Registry.standard_patternsFirst.register "CodeToText" (.named "Code" []) (.named "String" [])
    (by decide)

/-- The codes and the prices of a tariff are converted as they are on their own. -/
theorem tariff_inside :
    translating.registry.PatternsFirst ∧
      (1 ≤ 2 ∧ translating.resolveWithin 1 pricesStep.source pricesStep.target = .ok pricesStep ∧
        translating.resolveWithin 2 pricesStep.source pricesStep.target = .ok pricesStep) ∧
      translating.resolve tariffStep.source tariffStep.target = .ok tariffStep ∧
      tariffStep.elements ≠ [] ∧
      translating.resolve codeStep.source codeStep.target = .ok codeStep ∧
      translating.resolve pricesStep.source pricesStep.target = .ok pricesStep := by
  obtain ⟨hlevels, helements⟩ := Resolver.resolve_inside translating translating_patternsFirst
  have htariff : translating.resolve tariffStep.source tariffStep.target = .ok tariffStep := by rfl
  have hne : tariffStep.elements ≠ [] := List.cons_ne_nil _ _
  have hprices : translating.resolveWithin 1 pricesStep.source pricesStep.target =
      .ok pricesStep := by rfl
  have hpairs := helements _ _ _ htariff hne
  cases hpairs with
  | cons hcode hrest =>
    cases hrest with
    | cons hvalue _ =>
      exact ⟨translating_patternsFirst,
        ⟨Nat.le_succ 1, hprices, hlevels 1 2 _ _ _ (Nat.le_succ 1) hprices⟩, htariff, hne, hcode,
        hvalue⟩

end Sample

end ObjectMapping
