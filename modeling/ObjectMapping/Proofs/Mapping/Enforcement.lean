import ObjectMapping.Proofs.Conversion.Extension
import ObjectMapping.Proofs.Mapping.Growth
import ObjectMapping.Proofs.Mapping.Result

namespace ObjectMapping

namespace Resolver

variable {g : Registry} {levels : Nat} {s t : TypeRef} {step : ConversionStep}

/-- Where null can be dealt with, taking values to be there makes no difference. -/
theorem bridge_enforce {nullHandling : NullHandling}
    (h : bridge ⟨g, false⟩ s t = .ok nullHandling) : bridge ⟨g, true⟩ s t = .ok nullHandling := by
  unfold bridge at h ⊢
  split at h
  · cases h
  all_goals exact h

/-- What is found without unwraps is found in the same way with them. -/
theorem converts_enforce (hg : g.PatternsFirst) (h : Converts ⟨g, false⟩ levels s t step) :
    Converts ⟨g, true⟩ levels s t step :=
  h.extend hg rfl (fun _ _ _ hb => bridge_enforce hb) (Nat.le_refl levels)

/-- A conversion that is found stays the same if values are taken to be there. -/
theorem resolve_enforce (hg : g.PatternsFirst) (h : resolve ⟨g, false⟩ s t = .ok step) :
    resolve ⟨g, true⟩ s t = .ok step :=
  resolveWithin_eq_ok_iff.mpr (converts_enforce hg (resolveWithin_eq_ok_iff.mp h))

theorem plan_keeps_enforce (hg : g.PatternsFirst) (m : MatchedSlot) :
    PropertyPlan.Keeps (plan ⟨g, false⟩ m) (plan ⟨g, true⟩ m) := by
  refine ⟨by rw [plan_key, plan_key], ?_⟩
  intro hres
  unfold plan
  congr 1
  cases hs : m.source with
  | property name type byOverride =>
    rw [plan, hs, PropertyPlan.isResolved] at hres
    simp only [resolution] at hres ⊢
    cases hstep : resolve ⟨g, false⟩ type m.slot.type with
    | ok step => rw [resolve_enforce hg hstep]
    | error reason => simp [hstep] at hres
  | constant | expression | ignored | unmatched => rfl

/-- Every slot with a value keeps its plan. -/
theorem planDeclared_enforce (hg : g.PatternsFirst) {source target : TypeDescriptor}
    {decls : List OverrideDecl} {old : List PropertyPlan}
    (h : planDeclared ⟨g, false⟩ source target decls = .ok old) :
    ∃ plans, planDeclared ⟨g, true⟩ source target decls = .ok plans ∧
      List.Forall₂ PropertyPlan.Keeps old plans := by
  obtain ⟨hconflicts, ms, hms, rfl⟩ := planDeclared_eq_ok_iff.mp h
  refine ⟨_, planDeclared_eq_ok_iff.mpr ⟨hconflicts, ms, hms, rfl⟩, ?_⟩
  rw [List.forall₂_map_left_iff, List.forall₂_map_right_iff, List.forall₂_same]
  intro m _
  exact plan_keeps_enforce hg m

/-- Taking values to be there is conservative: each conversion that succeeded comes out the same,
each slot with a value keeps its plan, and each mapping that succeeded still does. -/
theorem enforceNotNull_conservative (g : Registry) (hg : g.PatternsFirst) :
    (∀ s t step, resolve ⟨g, false⟩ s t = .ok step → resolve ⟨g, true⟩ s t = .ok step) ∧
    (∀ source target decls old, planDeclared ⟨g, false⟩ source target decls = .ok old →
      ∃ plans, planDeclared ⟨g, true⟩ source target decls = .ok plans ∧
        List.Forall₂ PropertyPlan.Keeps old plans) ∧
    (∀ source target request result,
      resolvePair ⟨g, false⟩ source target request = .ok result →
      ∃ result', resolvePair ⟨g, true⟩ source target request = .ok result') := by
  refine ⟨fun _ _ _ h => resolve_enforce hg h, fun _ _ _ _ h => planDeclared_enforce hg h, ?_⟩
  intro source target request result h
  obtain ⟨old, c, i, hold, hchoose, _⟩ := resolvePair_eq_ok_iff.mp h
  obtain ⟨plans, hplans, hkeeps⟩ := planDeclared_enforce hg hold
  obtain ⟨b, hb⟩ := Construction.exists_choose_of_keeps hkeeps hchoose
  exact ⟨_, resolvePair_eq_ok_iff.mpr ⟨plans, b.1, b.2, hplans, hb, rfl⟩⟩

end Resolver

namespace Sample

def registry : Registry :=
  Registry.standard.register (.pattern "CodeToText" (.named "Code" []) (.named "String" []) 1000)

/-- The items of an order and the whole mapping, with a pattern registered. -/
theorem conservative :
    registry.PatternsFirst ∧
      (Resolver.resolve ⟨registry, false⟩ (listOf long.toNullable) (listOf text.toNullable) =
          .ok itemsStep ∧
        Resolver.resolve ⟨registry, true⟩ (listOf long.toNullable) (listOf text.toNullable) =
          .ok itemsStep) ∧
      (Resolver.resolvePair ⟨registry, false⟩ order invoice request = .ok result ∧
        ∃ result', Resolver.resolvePair ⟨registry, true⟩ order invoice request = .ok result') := by
  have hg : registry.PatternsFirst := by
    intro name source target priority h
    simp [registry, Registry.register, Registry.standard, BuiltIn.all] at h
    rw [h.2.2.2]
    decide
  obtain ⟨hsteps, _, hpairs⟩ := Resolver.enforceNotNull_conservative registry hg
  exact ⟨hg, ⟨by rfl, hsteps _ _ _ (by rfl)⟩,
    ⟨by rfl, hpairs order invoice request result (by rfl)⟩⟩

end Sample

end ObjectMapping
