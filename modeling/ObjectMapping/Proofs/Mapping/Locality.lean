import ObjectMapping.Proofs.Mapping.Comparison
import ObjectMapping.Proofs.Mapping.Result
import ObjectMapping.Proofs.Override.Partition

namespace ObjectMapping

def MappingRequest.declare (request : MappingRequest) (d : OverrideDecl) : MappingRequest :=
  { request with overrides := request.overrides ++ [d] }

/-- Of two plans for a slot the second is the first, unless the slot has the given name. -/
def PropertyPlan.SameBut (name : String) (plan plan' : PropertyPlan) : Prop :=
  plan'.key = plan.key ∧ (plan.target ≠ name → plan' = plan)

namespace Matching

variable {source target : TypeDescriptor} {overrides overrides' : OverrideSet} {slot : Slot}

/-- Nothing but the override for its name decides about a slot. -/
theorem sourceOf_congr (h : overrides'.find? slot.name = overrides.find? slot.name) :
    sourceOf source overrides' slot = sourceOf source overrides slot := by
  rw [sourceOf, sourceOf, h]

/-- Overrides for other names than those of slots make no difference. -/
theorem matchSlots_congr
    (h : ∀ slot ∈ target.slots, overrides'.find? slot.name = overrides.find? slot.name) :
    matchSlots source target overrides' = matchSlots source target overrides := by
  have hslots : target.slots.map (matchSlot source overrides') =
      target.slots.map (matchSlot source overrides) := by
    apply List.map_congr_left
    intro slot hslot
    rw [matchSlot, matchSlot, sourceOf_congr (h slot hslot)]
  rw [matchSlots, matchSlots, hslots]

end Matching

namespace Resolver

variable {r : Resolver} {source target : TypeDescriptor} {decls : List OverrideDecl}
  {d : OverrideDecl} {plan plan' : PropertyPlan} {plans plans' : List PropertyPlan} {slot : Slot}

/-- One more declaration changes plans for its own name only. -/
theorem sameBut_of_plansFor
    (h : r.PlansFor source (OverrideSet.partition decls).overrides slot plan)
    (h' : r.PlansFor source (OverrideSet.partition (decls ++ [d])).overrides slot plan') :
    plan.SameBut d.target plan' := by
  obtain ⟨s, hs, rfl⟩ := h
  obtain ⟨s', hs', rfl⟩ := h'
  refine ⟨by rw [plan_key, plan_key], ?_⟩
  intro hname
  have hfind := OverrideSet.find?_partition_append_of_ne (d := d) decls hname
  have hsame : Except.ok s' = (Except.ok s : Except MappingError _) := by
    rw [← hs', ← hs]
    exact Matching.sourceOf_congr hfind
  rw [Except.ok.inj hsame]

/-- Slots of other names keep their plans. -/
theorem planSlots_append
    (h : r.planSlots source target (OverrideSet.partition decls).overrides = .ok plans)
    (h' : r.planSlots source target (OverrideSet.partition (decls ++ [d])).overrides =
      .ok plans') :
    List.Forall₂ (PropertyPlan.SameBut d.target) plans plans' := by
  have hplans := planSlots_eq_ok_iff.mp h
  have hplans' := planSlots_eq_ok_iff.mp h'
  apply forall₂_of_common _ hplans hplans'
  intro slot _ plan plan' hplan hplan'
  exact sameBut_of_plansFor hplan hplan'

/-- A declaration for no slot changes neither the plans nor what is wrong with the others. -/
theorem planDeclared_append (hd : ¬ d.Conflicts)
    (hslots : ∀ slot ∈ target.slots, slot.name ≠ d.target) :
    r.planDeclared source target (decls ++ [d]) = r.planDeclared source target decls := by
  have hconflicts := OverrideSet.conflicts_partition_append decls hd
  have hmatched : Matching.matchSlots source target
        (OverrideSet.partition (decls ++ [d])).overrides =
      Matching.matchSlots source target (OverrideSet.partition decls).overrides := by
    apply Matching.matchSlots_congr
    intro slot hslot
    exact OverrideSet.find?_partition_append_of_ne decls (hslots slot hslot)
  simp only [planDeclared, planSlots, hconflicts, hmatched]

/-- One more declaration without conflict is local. Wherever all slots can be matched with it and
without it, those of other names have the very same plans; and if no slot has its name, the mapping
ends in the very same result or failure. -/
theorem resolvePair_declare (r : Resolver) (source target : TypeDescriptor)
    (request : MappingRequest) (d : OverrideDecl) (hd : ¬ d.Conflicts) :
    (∀ plans plans',
      r.planSlots source target (OverrideSet.partition request.overrides).overrides = .ok plans →
      r.planSlots source target (OverrideSet.partition (request.declare d).overrides).overrides =
        .ok plans' →
      List.Forall₂ (PropertyPlan.SameBut d.target) plans plans') ∧
    ((∀ slot ∈ target.slots, slot.name ≠ d.target) →
      r.resolvePair source target (request.declare d) = r.resolvePair source target request) := by
  constructor
  · intro plans plans' h h'
    exact planSlots_append h h'
  · intro hslots
    have hplans : r.planDeclared source target (request.declare d).overrides =
        r.planDeclared source target request.overrides := planDeclared_append hd hslots
    have hconstructor : (request.declare d).constructor = request.constructor := rfl
    rw [resolvePair, selectFor, hplans, hconstructor, resolvePair, selectFor]

end Resolver

namespace Sample

def constantNote : OverrideDecl := { target := "note", constant := some "none" }

def rebate : OverrideDecl := { target := "discount", source := some "rebate" }

/-- With a constant note an invoice has only this slot planned otherwise. A rebate makes no
difference. -/
theorem note_apart :
    ¬ constantNote.Conflicts ∧
      (∃ plans plans',
        Resolver.planSlots ⟨.standard, false⟩ order invoice
          (OverrideSet.partition request.overrides).overrides = .ok plans ∧
        Resolver.planSlots ⟨.standard, false⟩ order invoice
          (OverrideSet.partition (request.declare constantNote).overrides).overrides =
            .ok plans' ∧
        List.Forall₂ (PropertyPlan.SameBut "note") plans plans') ∧
      ¬ rebate.Conflicts ∧ "rebate" ∉ order.propertyNames ∧
      (∀ slot ∈ invoice.slots, slot.name ≠ "discount") ∧
      Resolver.resolvePair ⟨.standard, false⟩ order invoice request = .ok result ∧
      Resolver.resolvePair ⟨.standard, false⟩ order invoice (request.declare rebate) =
        Resolver.resolvePair ⟨.standard, false⟩ order invoice request := by
  have hnote : ¬ constantNote.Conflicts := by decide
  have hrebate : ¬ rebate.Conflicts := by decide
  have hslots : ∀ slot ∈ invoice.slots, slot.name ≠ "discount" := by decide
  have hplans := (Resolver.resolvePair_declare ⟨.standard, false⟩ order invoice request
    constantNote hnote).1
  have hsame := (Resolver.resolvePair_declare ⟨.standard, false⟩ order invoice request
    rebate hrebate).2
  exact ⟨hnote, ⟨_, _, rfl, rfl, hplans _ _ rfl rfl⟩, hrebate, by decide, hslots, by rfl,
    hsame hslots⟩

end Sample

end ObjectMapping
