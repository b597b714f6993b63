import ObjectMapping.Proofs.Conversion.Derivation

namespace ObjectMapping

namespace ConversionStep

structure WellTyped (g : Registry) (elements : ElementResolver) (n : ConversionStep) : Prop where
  direct : n.converter = none → n.elements = [] ∧ n.source.toNonNull = n.target.toNonNull
  converted : ∀ ref, n.converter = some ref →
    ∃ c, g.converters[ref.index]? = some c ∧ ref = c.ref ref.index ∧
      c.accepts elements n.source.toNonNull n.target.toNonNull = some n.elements ∧
      (n.elements ≠ [] →
        (c = .builtIn .iterableToIterable ∧ n.elements.length = 1) ∨
          (c = .builtIn .mapToMap ∧ n.elements.length = 2))
  -- the elements convert the type arguments one by one
  arguments : n.elements ≠ [] →
    n.elements.map (·.source) = n.source.arguments ∧
      n.elements.map (·.target) = n.target.arguments

/-- The handling of null is that which the two types demand. -/
structure NullSound (n : ConversionStep) : Prop where
  unsafeUnwrap : n.nullHandling = .unsafeUnwrap ↔ n.source.nullable ∧ ¬ n.target.nullable
  widen : n.nullHandling = .widen ↔ ¬ n.source.nullable ∧ n.target.nullable
  propagate : n.nullHandling = .propagate ↔
    n.source.nullable ∧ n.target.nullable ∧ n.source ≠ n.target
  none : n.nullHandling = .none ↔
    (¬ n.source.nullable ∧ ¬ n.target.nullable) ∨
      (n.source.nullable ∧ n.target.nullable ∧ n.source = n.target)

/-- No value that may be null goes where none is allowed. -/
def KeepsNullOut (n : ConversionStep) : Prop :=
  ¬ (n.source.nullable ∧ ¬ n.target.nullable)

end ConversionStep

namespace Converter

/-- Elements convert the type arguments one by one if their finder keeps to the types it is asked
for. -/
theorem Elements.map_eq_arguments {resolve : ElementResolver} {s t : TypeRef} {c : Converter}
    {es : List ConversionStep} (h : Elements resolve s t c es) (hne : es ≠ [])
    (hres : ∀ a b e, resolve a b = some e → e.source = a ∧ e.target = b) :
    es.map (·.source) = s.arguments ∧ es.map (·.target) = t.arguments := by
  cases h with
  | iterable hs ht he =>
    obtain ⟨hsource, htarget⟩ := hres _ _ _ he
    simp [hs, ht, hsource, htarget]
  | map hs ht hk hv =>
    obtain ⟨hsource, htarget⟩ := hres _ _ _ hk
    obtain ⟨hsource', htarget'⟩ := hres _ _ _ hv
    simp [hs, ht, hsource, htarget, hsource', htarget']
  | leaf => exact absurd rfl hne

/-- Only containers have elements, iterables one and maps two. -/
theorem Elements.container {resolve : ElementResolver} {s t : TypeRef} {c : Converter}
    {es : List ConversionStep} (h : Elements resolve s t c es) (hne : es ≠ []) :
    (c = .builtIn .iterableToIterable ∧ es.length = 1) ∨
      (c = .builtIn .mapToMap ∧ es.length = 2) := by
  cases h with
  | iterable => exact Or.inl ⟨rfl, rfl⟩
  | map => exact Or.inr ⟨rfl, rfl⟩
  | leaf => exact absurd rfl hne

end Converter

namespace Resolver

variable {r : Resolver} {levels d : Nat} {s t : TypeRef} {step n : ConversionStep}

theorem elementsWithin_types (a b : TypeRef) (e : ConversionStep)
    (h : r.elementsWithin levels a b = some e) : e.source = a ∧ e.target = b := by
  have hconv := resolveWithin_eq_ok_iff.mp (elementsWithin_eq_some_iff.mp h)
  exact ⟨hconv.source_eq, hconv.target_eq⟩

/-- A step that is derived fits its converter. -/
theorem Converts.wellTyped (h : r.Converts levels s t step) :
    step.WellTyped r.registry (r.elementsWithin (levels - 1)) := by
  cases h with
  | same => exact ⟨fun _ => ⟨rfl, rfl⟩, fun _ hc => (nomatch hc), fun hne => absurd rfl hne⟩
  | bridged _ _ _ heq =>
    exact ⟨fun _ => ⟨rfl, heq⟩, fun _ hc => (nomatch hc), fun hne => absurd rfl hne⟩
  | @converted inner _ _ _ best _ _ hbest =>
    obtain ⟨c, i, hc, href, hacc⟩ := Registry.mem_accepting.mp hbest.mem
    obtain ⟨_, hes⟩ := Converter.accepts_iff.mp hacc
    refine ⟨fun hnone => (nomatch hnone), ?_, ?_⟩
    · intro ref hsome
      cases hsome
      have hindex : best.converter.index = i := by rw [href, Converter.ref]
      refine ⟨c, ?_, ?_, hacc, hes.container⟩
      · rw [hindex]
        exact hc
      · rw [hindex]
        exact href
    · intro hne
      exact hes.map_eq_arguments hne elementsWithin_types

/-- Null is bridged as the two types demand. -/
theorem nullSound_of_bridge (hne : n.source ≠ n.target)
    (hb : r.bridge n.source n.target = .ok n.nullHandling) : n.NullSound := by
  unfold bridge at hb
  -- only the step from nullable to non-null depends on the resolver
  cases hs : n.source.nullable <;> cases ht : n.target.nullable <;>
    simp only [hs, ht] at hb
  case true.false =>
    split at hb
    · have hnull := Except.ok.inj hb
      constructor <;> simp [hs, ht, ← hnull]
    · cases hb
  all_goals
    have hnull := Except.ok.inj hb
    constructor <;> simp [hs, ht, hne, ← hnull]

/-- No bridge takes null where it is not allowed, unless values are taken to be there. -/
theorem keepsNullOut_of_bridge {nullHandling : NullHandling} (hr : r.enforceNotNull = false)
    (hb : r.bridge n.source n.target = .ok nullHandling) : n.KeepsNullOut := by
  rintro ⟨hs, ht⟩
  simp [bridge, hs, ht, hr] at hb

theorem Converts.nullSound (h : r.Converts levels s t step) : step.NullSound := by
  cases h with
  | same => constructor <;> cases hnull : s.nullable <;> simp [ConversionStep.direct, hnull]
  | bridged _ hne hb _ => exact nullSound_of_bridge hne hb
  | converted hb hne _ => exact nullSound_of_bridge (mt (congrArg TypeRef.toNonNull) hne) hb

theorem Converts.keepsNullOut (hr : r.enforceNotNull = false) (h : r.Converts levels s t step) :
    step.KeepsNullOut := by
  cases h with
  | same => exact fun hnull => hnull.2 hnull.1
  | bridged _ _ hb _ => exact keepsNullOut_of_bridge hr hb
  | converted hb _ _ => exact keepsNullOut_of_bridge hr hb

/-- Every node of a conversion fits its converter, with the levels left at its depth. -/
theorem wellTyped_of_nodeAt (h : r.resolve s t = .ok step) (hn : ConversionStep.NodeAt d n step) :
    n.WellTyped r.registry (r.elementsWithin (maxLevels - (d + 1))) :=
  ((resolveWithin_eq_ok_iff.mp h).nodeAt hn).2.wellTyped

/-- Every node of a conversion handles null as its types demand. Unless values are taken to be
there, no node lets null through. -/
theorem nullSound_of_nodeAt (h : r.resolve s t = .ok step) (hn : ConversionStep.NodeAt d n step) :
    n.NullSound ∧ (r.enforceNotNull = false → n.KeepsNullOut) := by
  have hconv := ((resolveWithin_eq_ok_iff.mp h).nodeAt hn).2
  exact ⟨hconv.nullSound, fun hr => hconv.keepsNullOut hr⟩

end Resolver

end ObjectMapping
