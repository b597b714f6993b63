import ObjectMapping.Proofs.Mapping.Comparison
import ObjectMapping.Proofs.Mapping.Growth
import ObjectMapping.Proofs.Mapping.Result

namespace ObjectMapping

namespace TypeDescriptor

def addProperty (d : TypeDescriptor) (p : Property) : TypeDescriptor :=
  { d with properties := d.properties ++ [p] }

/-- A property that was found is still found, whatever the new one is named. -/
theorem property?_addProperty {d : TypeDescriptor} {name : String} {q : Property} (p : Property)
    (h : d.property? name = some q) : (d.addProperty p).property? name = some q := by
  rw [property?] at h ⊢
  rw [addProperty, List.find?_append, h, Option.some_or]

end TypeDescriptor

namespace Matching

variable {source : TypeDescriptor} {overrides : OverrideSet} {slot : Slot} {s : SlotSource}

/-- A slot that could be matched still can, and only one without a match can get another. -/
theorem sourceOf_addProperty (p : Property) (h : sourceOf source overrides slot = .ok s) :
    ∃ s', sourceOf (source.addProperty p) overrides slot = .ok s' ∧ (s ≠ .unmatched → s' = s) := by
  rw [sourceOf] at h
  rw [sourceOf]
  cases hfind : overrides.find? slot.name with
  | some kind =>
    rw [hfind] at h
    cases kind with
    | constant | expression | ignore => exact ⟨s, h, fun _ => rfl⟩
    | source name =>
      cases hq : source.property? name with
      | none => simp [hq] at h
      | some q =>
        have hq' := TypeDescriptor.property?_addProperty p hq
        simp only [hq] at h
        simp only [hq']
        exact ⟨s, h, fun _ => rfl⟩
  | none =>
    rw [hfind] at h
    cases hq : source.property? slot.name with
    | some q =>
      have hq' := TypeDescriptor.property?_addProperty p hq
      simp only [hq] at h
      simp only [hq']
      exact ⟨s, h, fun _ => rfl⟩
    | none =>
      -- the new property may be the first of this name
      simp only [hq] at h
      have hs : s = .unmatched := (Except.ok.inj h).symm
      cases (source.addProperty p).property? slot.name with
      | none => exact ⟨_, rfl, fun hne => absurd hs hne⟩
      | some q => exact ⟨_, rfl, fun hne => absurd hs hne⟩

end Matching

namespace Resolver

variable {r : Resolver} {source target : TypeDescriptor} {overrides : OverrideSet}
  {decls : List OverrideDecl} {old : List PropertyPlan} {slot : Slot} {plan : PropertyPlan}

/-- One more property of the source does not change a plan with a value. -/
theorem plansFor_addProperty (p : Property) (h : r.PlansFor source overrides slot plan) :
    ∃ plan', r.PlansFor (source.addProperty p) overrides slot plan' ∧ plan.Keeps plan' := by
  obtain ⟨s, hs, rfl⟩ := h
  obtain ⟨s', hs', hsame⟩ := Matching.sourceOf_addProperty p hs
  refine ⟨r.plan ⟨slot, s'⟩, ⟨s', hs', rfl⟩, by rw [plan_key, plan_key], ?_⟩
  intro hres
  have hmatched : s ≠ .unmatched := by
    rintro rfl
    cases hres
  rw [hsame hmatched]

/-- Every slot with a value keeps its plan. -/
theorem planDeclared_addProperty (p : Property)
    (h : r.planDeclared source target decls = .ok old) :
    ∃ plans, r.planDeclared (source.addProperty p) target decls = .ok plans ∧
      List.Forall₂ PropertyPlan.Keeps old plans := by
  obtain ⟨hconflicts, hold⟩ := planDeclared_eq_ok_iff_planSlots.mp h
  obtain ⟨plans, hplans, hkeeps⟩ := exists_forall₂_of_common
    (fun _ _ hplan => plansFor_addProperty p hplan) (planSlots_eq_ok_iff.mp hold)
  have hnew := planSlots_eq_ok_iff.mpr hplans
  exact ⟨plans, planDeclared_eq_ok_iff_planSlots.mpr ⟨hconflicts, hnew⟩, hkeeps⟩

/-- A property added to the source breaks nothing. Each slot with a value keeps its plan, and a
mapping that succeeded still does. -/
theorem resolvePair_addProperty (r : Resolver) (source target : TypeDescriptor)
    (request : MappingRequest) (p : Property) :
    (∀ old, r.planDeclared source target request.overrides = .ok old →
      ∃ plans, r.planDeclared (source.addProperty p) target request.overrides = .ok plans ∧
        List.Forall₂ PropertyPlan.Keeps old plans) ∧
    (∀ result, r.resolvePair source target request = .ok result →
      ∃ result', r.resolvePair (source.addProperty p) target request = .ok result') := by
  constructor
  · intro old hold
    exact planDeclared_addProperty p hold
  · intro result h
    obtain ⟨old, c, i, hold, hchoose, _⟩ := resolvePair_eq_ok_iff.mp h
    obtain ⟨plans, hplans, hkeeps⟩ := planDeclared_addProperty p hold
    obtain ⟨b, hb⟩ := Construction.exists_choose_of_keeps hkeeps hchoose
    exact ⟨_, resolvePair_eq_ok_iff.mpr ⟨plans, b.1, b.2, hplans, hb, rfl⟩⟩

end Resolver

namespace Sample

def labelText : Property := { name := "label", type := text }

def plain : MappingRequest := { source := "Order", target := "Invoice" }

/-- An order with a label still becomes an invoice, now by the constructor that takes the label. -/
theorem label_added :
    (∃ result, Resolver.resolvePair ⟨.standard, false⟩ order invoice plain = .ok result ∧
      result.constructorIndex = 0) ∧
    (∃ result,
      Resolver.resolvePair ⟨.standard, false⟩ (order.addProperty labelText) invoice plain =
          .ok result ∧
        result.constructorIndex = 1) ∧
    ∃ old plans,
      Resolver.planDeclared ⟨.standard, false⟩ order invoice plain.overrides = .ok old ∧
      Resolver.planDeclared ⟨.standard, false⟩ (order.addProperty labelText) invoice
        plain.overrides = .ok plans ∧
      List.Forall₂ PropertyPlan.Keeps old plans := by
  obtain ⟨hplans, hresults⟩ :=
    Resolver.resolvePair_addProperty ⟨.standard, false⟩ order invoice plain labelText
  obtain ⟨plans, hplans, hkeeps⟩ := hplans _ rfl
  obtain ⟨result, hresult⟩ := hresults _ rfl
  have hindex : result.constructorIndex = 1 := by
    cases hresult
    rfl
  exact ⟨⟨_, rfl, rfl⟩, ⟨result, hresult, hindex⟩, _, plans, rfl, hplans, hkeeps⟩

end Sample

end ObjectMapping
