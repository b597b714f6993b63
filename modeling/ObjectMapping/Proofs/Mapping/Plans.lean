import Mathlib.Data.List.Forall2
import ObjectMapping.Engine
import ObjectMapping.Proofs.Mapping.Slots

namespace ObjectMapping

/-- `res.Reads name step`: the value comes from the source property `name` by way of `step`. -/
def Resolution.Reads (res : Resolution) (name : String) (step : ConversionStep) : Prop :=
  res = .matchedByName name step ∨ res = .matchedByOverride name step

namespace Matching

theorem collect_eq_ok_iff {ε α : Type} {results : List (Except ε α)} {values : List α} :
    collect results = .ok values ↔ results = values.map .ok := by
  induction results generalizing values with
  | nil => simp [collect, eq_comm]
  | cons first rest ih =>
    cases first with
    | error e => cases hrest : collect rest <;> cases values <;> simp [collect, hrest]
    | ok a => cases hrest : collect rest <;> cases values <;> simp [collect, hrest, ← ih]

theorem matchSlot_eq_ok_iff {source : TypeDescriptor} {overrides : OverrideSet} {slot : Slot}
    {m : MatchedSlot} :
    matchSlot source overrides slot = .ok m ↔
      m.slot = slot ∧ sourceOf source overrides slot = .ok m.source := by
  unfold matchSlot
  cases h : sourceOf source overrides slot with
  | ok s =>
    cases m
    simp [Except.map, eq_comm]
  | error e => simp [Except.map]

theorem matchSlots_eq_ok_iff {source target : TypeDescriptor} {overrides : OverrideSet}
    {ms : List MatchedSlot} :
    matchSlots source target overrides = .ok ms ↔
      List.Forall₂ (fun slot m => m.slot = slot ∧ sourceOf source overrides slot = .ok m.source)
        target.slots ms := by
  rw [matchSlots, collect_eq_ok_iff, ← List.forall₂_eq_eq_eq, List.forall₂_map_left_iff,
    List.forall₂_map_right_iff]
  simp only [matchSlot_eq_ok_iff]

/-- There is one match for each slot, in order. -/
theorem map_slot_of_matchSlots {source target : TypeDescriptor} {overrides : OverrideSet}
    {ms : List MatchedSlot} (h : matchSlots source target overrides = .ok ms) :
    ms.map (·.slot) = target.slots := by
  have hsame := (matchSlots_eq_ok_iff.mp h).imp fun _ _ hm => hm.1.symm
  rw [← List.forall₂_map_right_iff, List.forall₂_eq_eq_eq] at hsame
  exact hsame.symm

/-- A slot is matched with a source property of the name that it reads. -/
theorem property?_of_sourceOf {source : TypeDescriptor} {overrides : OverrideSet} {slot : Slot}
    {name : String} {type : TypeRef} {byOverride : Bool}
    (h : sourceOf source overrides slot = .ok (.property name type byOverride)) :
    ∃ p, source.property? name = some p ∧ p.type = type := by
  have hname {n : String} {p : Property} (hp : source.property? n = some p) :
      source.property? p.name = some p := by
    have heq : p.name = n := by simpa using List.find?_some hp
    rw [heq, hp]
  unfold sourceOf at h
  split at h
  · cases h
  · cases h
  · cases h
  · split at h
    · rename_i p hp
      cases h
      exact ⟨p, hname hp, rfl⟩
    · cases h
  · split at h
    · rename_i p hp
      cases h
      exact ⟨p, hname hp, rfl⟩
    · cases h

end Matching

namespace Resolver

variable {r : Resolver} {source target : TypeDescriptor} {decls : List OverrideDecl}
  {plans : List PropertyPlan}

/-- Slots are planned if no declarations conflict and all slots can be matched. -/
theorem planDeclared_eq_ok_iff :
    r.planDeclared source target decls = .ok plans ↔
      (OverrideSet.partition decls).conflicts = [] ∧
        ∃ ms, Matching.matchSlots source target (OverrideSet.partition decls).overrides = .ok ms ∧
          plans = ms.map r.plan := by
  simp only [planDeclared, planSlots]
  cases Matching.matchSlots source target (OverrideSet.partition decls).overrides with
  | error es => simp [Except.map]
  | ok ms =>
    cases (OverrideSet.partition decls).conflicts with
    | nil =>
      constructor
      · intro h
        exact ⟨rfl, ms, rfl, (Except.ok.inj h).symm⟩
      · rintro ⟨_, _, hms, rfl⟩
        cases hms
        rfl
    | cons c cs => simp [Except.map]

@[simp] theorem plan_key (m : MatchedSlot) : (r.plan m).key = m.slot.key :=
  rfl

theorem map_key_planAll (r : Resolver) (ms : List MatchedSlot) :
    (r.planAll ms).map (·.key) = (ms.map (·.slot)).map Slot.key := by
  rw [planAll, List.map_map, List.map_map]
  exact List.map_congr_left fun m _ => plan_key m

/-- There is one plan for each slot, in order. -/
theorem map_key_of_planDeclared (h : r.planDeclared source target decls = .ok plans) :
    plans.map (·.key) = target.slots.map Slot.key := by
  obtain ⟨_, ms, hms, rfl⟩ := planDeclared_eq_ok_iff.mp h
  rw [← Matching.map_slot_of_matchSlots hms]
  exact map_key_planAll r ms

/-- No slot is planned twice. -/
theorem nodup_keys_of_planDeclared (h : r.planDeclared source target decls = .ok plans) :
    (plans.map (·.key)).Nodup :=
  map_key_of_planDeclared h ▸ target.nodup_slot_keys

/-- Every plan is for a slot of the target and what this is matched with. -/
theorem exists_slot_of_mem_plans (h : r.planDeclared source target decls = .ok plans)
    {plan : PropertyPlan} (hp : plan ∈ plans) :
    ∃ slot ∈ target.slots, ∃ s,
      Matching.sourceOf source (OverrideSet.partition decls).overrides slot = .ok s ∧
        plan = r.plan ⟨slot, s⟩ := by
  obtain ⟨_, ms, hms, rfl⟩ := planDeclared_eq_ok_iff.mp h
  obtain ⟨m, hm, rfl⟩ := List.mem_map.mp hp
  have hslots := Matching.matchSlots_eq_ok_iff.mp hms
  obtain ⟨i, hi, rfl⟩ := List.mem_iff_getElem.mp hm
  have hlen := hslots.length_eq
  obtain ⟨hslot, hsource⟩ := hslots.get (hlen ▸ hi) hi
  exact ⟨_, List.get_mem _ _, _, hsource, by rw [← hslot]; rfl⟩

/-- A value that is read from a property is converted from the type of that property. -/
theorem resolve_of_reads {type : TypeRef} {s : SlotSource} {name : String} {step : ConversionStep}
    (h : (r.resolution type s).Reads name step) :
    ∃ t byOverride, s = .property name t byOverride ∧ r.resolve t type = .ok step := by
  cases s with
  | property name' t byOverride =>
    simp only [resolution] at h
    split at h
    · rename_i step' hstep
      have heq : name' = name ∧ step' = step := by
        cases byOverride <;> simpa [Resolution.Reads] using h
      exact ⟨t, byOverride, by rw [heq.1], by rw [hstep, heq.2]⟩
    · simp [Resolution.Reads] at h
  | constant | expression | ignored | unmatched => simp [resolution, Resolution.Reads] at h

/-- A value that is read comes from the first source property of its name, by the conversion of
the type declared there. -/
theorem resolve_of_mem_plans (h : r.planDeclared source target decls = .ok plans)
    {plan : PropertyPlan} (hp : plan ∈ plans) {name : String} {step : ConversionStep}
    (hreads : plan.resolution.Reads name step) :
    ∃ p, source.property? name = some p ∧ r.resolve p.type plan.targetType = .ok step := by
  obtain ⟨slot, _, s, hs, rfl⟩ := exists_slot_of_mem_plans h hp
  obtain ⟨t, byOverride, rfl, hstep⟩ := resolve_of_reads hreads
  obtain ⟨p, hproperty, rfl⟩ := Matching.property?_of_sourceOf hs
  exact ⟨p, hproperty, hstep⟩

end Resolver

end ObjectMapping
