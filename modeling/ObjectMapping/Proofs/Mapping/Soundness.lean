import ObjectMapping.Proofs.Conversion.Soundness
import ObjectMapping.Proofs.Mapping.Result

namespace ObjectMapping

theorem PropertyPlan.step?_eq_some_iff {plan : PropertyPlan} {step : ConversionStep} :
    plan.step? = some step ↔ ∃ name, plan.resolution.Reads name step := by
  cases hres : plan.resolution <;> simp [step?, Resolution.Reads, hres]

/-- Null is handled soundly at every node. Unless values are taken to be there, it is kept out
wherever it is not allowed. -/
def ConversionStep.NullSafe (enforceNotNull : Bool) (step : ConversionStep) : Prop :=
  ∀ d n, NodeAt d n step → n.NullSound ∧ (enforceNotNull = false → n.KeepsNullOut)

/-- A step that keeps null out does not take values to be there. -/
theorem ConversionStep.NullSafe.unwraps_eq_false {step : ConversionStep}
    (h : step.NullSafe false) : step.unwraps = false := by
  rw [Bool.eq_false_iff]
  intro hunwraps
  obtain ⟨d, n, hn, hnull⟩ := (unwraps_iff step).mp hunwraps
  obtain ⟨hsound, hkeeps⟩ := h d n hn
  exact hkeeps rfl (hsound.unsafeUnwrap.mp hnull)

namespace Resolver

/-- Null is handled soundly in every conversion that is found. -/
theorem nullSafe_of_resolve {r : Resolver} {s t : TypeRef} {step : ConversionStep}
    (h : r.resolve s t = .ok step) : step.NullSafe r.enforceNotNull :=
  fun _ _ hn => nullSound_of_nodeAt h hn

/-- A value that is read is converted from a property of the source. -/
theorem resolve_of_reads_of_mem {r : Resolver} {source target : TypeDescriptor}
    {request : MappingRequest} {result : MappingResult}
    (h : r.resolvePair source target request = .ok result) {e : PropertyPlan}
    (he : e ∈ result.properties) {name : String} {step : ConversionStep}
    (hreads : e.resolution.Reads name step) :
    ∃ p, source.property? name = some p ∧ r.resolve p.type e.targetType = .ok step := by
  obtain ⟨plans, c, i, hplans, _, rfl⟩ := resolvePair_eq_ok_iff.mp h
  obtain ⟨plan, hplan, _, heq⟩ := Construction.mem_assemble_properties i he
  rw [heq] at hreads ⊢
  exact resolve_of_mem_plans hplans hplan hreads

/-- Results are well typed: every step starts at the declared type of the property that is read
and ends at the type of the slot, every node of its tree is well typed, and no path through the
tree has more than two converters. -/
theorem resolvePair_wellTyped (r : Resolver) (source target : TypeDescriptor)
    (request : MappingRequest) (result : MappingResult)
    (h : r.resolvePair source target request = .ok result) :
    ∀ e ∈ result.properties, ∀ name step, e.resolution.Reads name step →
      (∃ p, source.property? name = some p ∧ step.source = p.type) ∧
      step.target = e.targetType ∧
      (∀ d n, ConversionStep.NodeAt d n step →
        n.WellTyped r.registry (r.elementsWithin (maxLevels - (d + 1)))) ∧
      ∀ path, ConversionStep.Path path step → path.countP (·.converter.isSome) ≤ 2 := by
  intro e he name step hreads
  obtain ⟨p, hp, hstep⟩ := resolve_of_reads_of_mem h he hreads
  have hconv := resolveWithin_eq_ok_iff.mp hstep
  refine ⟨⟨p, hp, hconv.source_eq⟩, hconv.target_eq, ?_, ?_⟩
  · intro d n hn
    exact wellTyped_of_nodeAt hstep hn
  · intro path hpath
    exact hconv.countP_converter_le hpath

/-- Conversions are null safe, alone, in the plans of a mapping and in its result. Unless values
are taken to be there, no result unwraps any. -/
theorem null_safety (r : Resolver) :
    (∀ s t step, r.resolve s t = .ok step → step.NullSafe r.enforceNotNull) ∧
    (∀ source target decls plans, r.planDeclared source target decls = .ok plans →
      ∀ plan ∈ plans, ∀ step, plan.step? = some step → step.NullSafe r.enforceNotNull) ∧
    (∀ source target request result, r.resolvePair source target request = .ok result →
      (∀ e ∈ result.properties, ∀ step, e.step? = some step → step.NullSafe r.enforceNotNull) ∧
      (r.enforceNotNull = false → result.unwraps = false)) := by
  refine ⟨fun _ _ _ h => nullSafe_of_resolve h, ?_, ?_⟩
  · intro source target decls plans h plan hplan step hstep
    obtain ⟨name, hreads⟩ := PropertyPlan.step?_eq_some_iff.mp hstep
    obtain ⟨_, _, hresolve⟩ := resolve_of_mem_plans h hplan hreads
    exact nullSafe_of_resolve hresolve
  · intro source target request result h
    have hsafe : ∀ e ∈ result.properties, ∀ step, e.step? = some step →
        step.NullSafe r.enforceNotNull := by
      intro e he step hstep
      obtain ⟨name, hreads⟩ := PropertyPlan.step?_eq_some_iff.mp hstep
      obtain ⟨_, _, hresolve⟩ := resolve_of_reads_of_mem h he hreads
      exact nullSafe_of_resolve hresolve
    refine ⟨hsafe, ?_⟩
    intro hr
    rw [hr] at hsafe
    rw [MappingResult.unwraps, List.any_eq_false]
    intro e he
    cases hstep : e.step? with
    | none => simp [PropertyPlan.unwraps, hstep]
    | some step => simp [PropertyPlan.unwraps, hstep, (hsafe e he step hstep).unwraps_eq_false]

end Resolver

namespace Sample

/-- The items of an invoice, with an element conversion inside. -/
theorem items_wellTyped :
    Resolver.resolvePair ⟨.standard, false⟩ order invoice request = .ok result ∧
      (∃ p, order.property? "items" = some p ∧ itemsStep.source = p.type) ∧
      itemsStep.target = listOf text.toNullable ∧
      (∀ d n, ConversionStep.NodeAt d n itemsStep →
        n.WellTyped .standard
          (Resolver.elementsWithin ⟨.standard, false⟩ (Resolver.maxLevels - (d + 1)))) ∧
      ∀ path, ConversionStep.Path path itemsStep → path.countP (·.converter.isSome) ≤ 2 :=
  ⟨by rfl, Resolver.resolvePair_wellTyped ⟨.standard, false⟩ order invoice request result (by rfl) _
    (List.mem_cons_of_mem _ (List.mem_cons_of_mem _ List.mem_cons_self)) "items" itemsStep
    (Or.inl rfl)⟩

def unwrappingStep : ConversionStep where
  source := listOf long.toNullable
  target := listOf text
  nullHandling := .none
  converter := some ⟨3, "IterableToIterable", 3000⟩
  elements := [toText long.toNullable text .unsafeUnwrap]

/-- A result without unwraps, and a step that unwraps its elements when it may. -/
theorem null_safe :
    (Resolver.resolvePair ⟨.standard, false⟩ order invoice request = .ok result ∧
      result.unwraps = false) ∧
    (Resolver.resolve ⟨.standard, true⟩ (listOf long.toNullable) (listOf text) =
        .ok unwrappingStep ∧
      unwrappingStep.NullSafe true) :=
  ⟨⟨by rfl, ((Resolver.null_safety ⟨.standard, false⟩).2.2 order invoice request result
      (by rfl)).2 rfl⟩,
    ⟨by rfl, (Resolver.null_safety ⟨.standard, true⟩).1 (listOf long.toNullable) (listOf text)
      unwrappingStep (by rfl)⟩⟩

end Sample

end ObjectMapping
