import ObjectMapping.Proofs.Mapping.Plans
import ObjectMapping.Proofs.Success

namespace ObjectMapping

section Places

variable {α β γ : Type} {R : α → β → Prop} {S : α → γ → Prop} {T : β → γ → Prop}

/-- Two lists that follow a third one place by place can be compared place by place. -/
theorem forall₂_of_common {as : List α} {bs : List β} {cs : List γ}
    (hT : ∀ a ∈ as, ∀ b c, R a b → S a c → T b c) (hR : List.Forall₂ R as bs)
    (hS : List.Forall₂ S as cs) : List.Forall₂ T bs cs := by
  -- the other list is taken apart beside the first
  induction hR generalizing cs with
  | nil =>
    cases hS
    exact .nil
  | cons hab _ ih =>
    obtain ⟨hfirst, hrest⟩ := List.forall_mem_cons.mp hT
    cases hS with
    | cons hac hS => exact .cons (hfirst _ _ hab hac) (ih hrest hS)

/-- If each place of a list can be followed in another way, so can the list. -/
theorem exists_forall₂_of_common {as : List α} {bs : List β}
    (hT : ∀ a b, R a b → ∃ c, S a c ∧ T b c) (hR : List.Forall₂ R as bs) :
    ∃ cs, List.Forall₂ S as cs ∧ List.Forall₂ T bs cs := by
  induction hR with
  | nil => exact ⟨[], .nil, .nil⟩
  | cons hab _ ih =>
    obtain ⟨c, hac, hbc⟩ := hT _ _ hab
    obtain ⟨cs, hS, hrest⟩ := ih
    exact ⟨c :: cs, .cons hac hS, .cons hbc hrest⟩

end Places

namespace Resolver

variable {r : Resolver} {source target : TypeDescriptor} {overrides : OverrideSet}
  {decls : List OverrideDecl} {plans : List PropertyPlan}

def PlansFor (r : Resolver) (source : TypeDescriptor) (overrides : OverrideSet) (slot : Slot)
    (plan : PropertyPlan) : Prop :=
  ∃ s, Matching.sourceOf source overrides slot = .ok s ∧ plan = r.plan ⟨slot, s⟩

/-- Slots are planned if all of them can be matched. -/
theorem planSlots_eq_ok_iff_matchSlots :
    r.planSlots source target overrides = .ok plans ↔
      ∃ ms, Matching.matchSlots source target overrides = .ok ms ∧ plans = ms.map r.plan := by
  have hmap : r.planSlots source target overrides = .ok plans ↔ _ :=
    map_eq_ok_iff (x := Matching.matchSlots source target overrides) (f := r.planAll)
  simp only [hmap, planAll, eq_comm]

/-- The plans follow the slots place by place. -/
theorem planSlots_eq_ok_iff :
    r.planSlots source target overrides = .ok plans ↔
      List.Forall₂ (r.PlansFor source overrides) target.slots plans := by
  rw [planSlots_eq_ok_iff_matchSlots]
  constructor
  · rintro ⟨ms, hms, rfl⟩
    rw [List.forall₂_map_right_iff]
    apply (Matching.matchSlots_eq_ok_iff.mp hms).imp
    rintro slot m ⟨rfl, hs⟩
    exact ⟨m.source, hs, rfl⟩
  · intro hplans
    have hread : ∀ slot plan, r.PlansFor source overrides slot plan →
        ∃ m : MatchedSlot,
          (m.slot = slot ∧ Matching.sourceOf source overrides slot = .ok m.source) ∧
            plan = r.plan m := by
      rintro slot plan ⟨s, hs, hplan⟩
      exact ⟨⟨slot, s⟩, ⟨rfl, hs⟩, hplan⟩
    obtain ⟨ms, hms, hsame⟩ := exists_forall₂_of_common hread hplans
    refine ⟨ms, Matching.matchSlots_eq_ok_iff.mpr hms, ?_⟩
    rwa [← List.forall₂_map_right_iff, List.forall₂_eq_eq_eq] at hsame

theorem planDeclared_eq_ok_iff_planSlots :
    r.planDeclared source target decls = .ok plans ↔
      (OverrideSet.partition decls).conflicts = [] ∧
        r.planSlots source target (OverrideSet.partition decls).overrides = .ok plans := by
  rw [planDeclared_eq_ok_iff, planSlots_eq_ok_iff_matchSlots]

end Resolver

end ObjectMapping
