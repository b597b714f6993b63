import ObjectMapping.Proofs.Mapping.Result

namespace ObjectMapping

/-- Of repeated keys the first occurrences are kept. -/
theorem distinctBy_id {κ : Type} [DecidableEq κ] [BEq κ] [LawfulBEq κ] :
    ∀ keys : List κ, distinctBy id keys = keys.eraseDups
  | [] => rfl
  | key :: rest => by
    have hother : (fun k => decide (id k ≠ id key)) = fun k => !k == key := by
      funext k
      by_cases hk : k = key <;> simp [hk]
    -- the recursion is on what is left without the first key
    have hshorter : (rest.filter fun k => !k == key).length ≤ rest.length :=
      List.length_filter_le _ _
    rw [distinctBy, hother, ← distinctBy_filter, List.eraseDups_cons,
      distinctBy_id (rest.filter fun k => !k == key)]
termination_by keys => keys.length

namespace TypeDescriptor

/-- The keys of the slots are those of the parameters, and then those of the mutable properties that
are not among them. -/
theorem map_key_slots (d : TypeDescriptor) :
    d.slots.map Slot.key = (d.parameters.map Property.key).eraseDups ++
      ((d.mutableProperties.map Property.key).removeAll
        (d.parameters.map Property.key)).eraseDups := by
  -- a slot has the key of the parameter or property that it is for
  have hkeys : (d.parameters.map d.parameterSlot ++ d.mutableProperties.map propertySlot).map
      Slot.key = d.parameters.map Property.key ++ d.mutableProperties.map Property.key := by
    rw [List.map_append, List.map_map, List.map_map]
    rfl
  rw [slots, map_distinctBy, hkeys, distinctBy_id, List.eraseDups_append]

end TypeDescriptor

namespace Construction

variable {plans : List PropertyPlan} {target : TypeDescriptor} {p : Property}

theorem exists_planFor? (h : p.key ∈ plans.map (·.key)) :
    ∃ plan, planFor? plans p = some plan ∧ plan.key = p.key := by
  obtain ⟨plan, hmem, hkey⟩ := List.mem_map.mp h
  have hsome : (planFor? plans p).isSome := by
    rw [planFor?, List.find?_isSome]
    exact ⟨plan, hmem, decide_eq_true hkey⟩
  obtain ⟨found, hfound⟩ := Option.isSome_iff_exists.mp hsome
  exact ⟨found, hfound, (planFor?_eq_some hfound).2⟩

/-- There is one plan for each slot of the target, and whatever is looked up has its plan. -/
structure Covers (plans : List PropertyPlan) (target : TypeDescriptor) : Prop where
  inOrder : plans.map (·.key) = target.slots.map Slot.key
  distinct : (plans.map (·.key)).Nodup
  -- the parameters of all constructors come in order of first occurrence, and then the mutable
  -- properties that are not among them
  keys : plans.map (·.key) = (target.parameters.map Property.key).eraseDups ++
    ((target.mutableProperties.map Property.key).removeAll
      (target.parameters.map Property.key)).eraseDups
  parameter : ∀ c ∈ target.constructors, ∀ p ∈ c.parameters,
    ∃ plan, planFor? plans p = some plan ∧ plan.key = p.key
  property : ∀ p ∈ target.properties, p.mutable = true →
    ∃ plan, planFor? plans p = some plan ∧ plan.key = p.key
  -- a parameter that has no source property is planned as such, and not just missing
  unmatched : ∀ c ∈ target.constructors, ∀ p ∈ c.parameters,
    blocker? plans p = some (.unresolved .unmatched) →
      ∃ plan ∈ plans, plan.key = p.key ∧ plan.reason? = some .unmatched

/-- A plan that is there is not taken for one without a source property if it has another reason. -/
theorem reason?_of_blocker? {plan : PropertyPlan} (hplan : planFor? plans p = some plan)
    (h : blocker? plans p = some (.unresolved .unmatched)) : plan.reason? = some .unmatched := by
  simp only [blocker?, hplan] at h
  cases hres : plan.resolution with
  | unresolved source reason =>
    rw [hres] at h
    cases h
    rw [PropertyPlan.reason?, hres]
  | _ =>
    rw [hres] at h
    cases h

section

variable (h : plans.map (·.key) = target.slots.map Slot.key)
include h

theorem exists_planFor?_of_mem (hp : p ∈ target.parameters ++ target.mutableProperties) :
    ∃ plan, planFor? plans p = some plan ∧ plan.key = p.key := by
  apply exists_planFor?
  rw [h, TypeDescriptor.mem_slot_keys_iff]
  exact ⟨p, hp, rfl⟩

/-- Every parameter of every constructor has its plan. -/
theorem exists_planFor?_parameter {c : Constructor} (hc : c ∈ target.constructors)
    (hp : p ∈ c.parameters) : ∃ plan, planFor? plans p = some plan ∧ plan.key = p.key :=
  exists_planFor?_of_mem h (List.mem_append_left _ (List.mem_flatMap_of_mem hc hp))

theorem exists_planFor?_property (hp : p ∈ target.properties) (hmutable : p.mutable = true) :
    ∃ plan, planFor? plans p = some plan ∧ plan.key = p.key :=
  exists_planFor?_of_mem h (List.mem_append_right _ (List.mem_filter.mpr ⟨hp, hmutable⟩))

/-- Plans for all slots in order leave nothing without a plan. -/
theorem covers_of_map_key : Covers plans target where
  inOrder := h
  distinct := h ▸ target.nodup_slot_keys
  keys := h ▸ target.map_key_slots
  parameter _ hc _ hp := exists_planFor?_parameter h hc hp
  property _ hp hmutable := exists_planFor?_property h hp hmutable
  unmatched c hc p hp hblocker := by
    obtain ⟨plan, hplan, hkey⟩ := exists_planFor?_parameter h hc hp
    exact ⟨plan, (planFor?_eq_some hplan).1, hkey, reason?_of_blocker? hplan hblocker⟩

end

end Construction

open Construction in
/-- The plans for matched slots cover the slots of the target. So within a mapping the choice of a
constructor finds a plan for whatever it looks up, what it chooses is in range, and the result is
put together for the chosen constructor. -/
theorem Resolver.plans_cover (r : Resolver) (source target : TypeDescriptor) :
    (∀ overrides matched, Matching.matchSlots source target overrides = .ok matched →
      matched.map (·.slot) = target.slots ∧ Covers (r.planAll matched) target) ∧
    ∀ (request : MappingRequest) plans,
      r.planDeclared source target request.overrides = .ok plans →
        Covers plans target ∧
        (∀ c i, Construction.choose plans target request.constructor = .ok (c, i) →
          target.constructors[i]? = some c) ∧
        r.selectFor source target request =
          ((Construction.choose plans target request.constructor).map fun c =>
            assemble plans target c.1 c.2).mapError ([·]) := by
  constructor
  · intro overrides matched h
    have hslots := Matching.map_slot_of_matchSlots h
    refine ⟨hslots, covers_of_map_key ?_⟩
    rw [map_key_planAll, hslots]
  · intro request plans hplans
    refine ⟨covers_of_map_key (map_key_of_planDeclared hplans), ?_, ?_⟩
    · intro c i hchoose
      exact (choose_eq_ok hchoose).1
    · rw [selectFor, hplans]
      exact congrArg (Except.mapError ([·])) (select_eq plans target request.constructor)

namespace Sample

def crateById : Constructor :=
  ⟨[{ name := "id", type := long }, { name := "label", type := text }]⟩

def crate : TypeDescriptor where
  name := "Crate"
  properties :=
    [{ name := "label", type := text, mutable := true },
      { name := "note", type := text, mutable := true },
      { name := "note", type := text, mutable := true }]
  constructors :=
    [crateById, ⟨[{ name := "id", type := text }, { name := "label", type := text }]⟩]

def crateRequest : MappingRequest where
  source := "Order"
  target := "Crate"
  overrides := [{ target := "label", constant := some "fragile" }]

def crateMatches : List MatchedSlot :=
  [⟨⟨"id", long, false⟩, .property "id" long false⟩,
    ⟨⟨"label", text, true⟩, .constant "fragile"⟩,
    ⟨⟨"id", text, false⟩, .property "id" long false⟩,
    ⟨⟨"note", text, true⟩, .property "note" text.toNullable false⟩]

/-- Each identity has its own plan, and the label and the note have one each. -/
theorem crate_covered :
    let r : Resolver := ⟨.standard, false⟩
    crateMatches.map (·.slot) = crate.slots ∧
      (r.planAll crateMatches).map (·.key) =
        [("id", long), ("label", text), ("id", text), ("note", text)] ∧
      (∃ plan, Construction.planFor? (r.planAll crateMatches) { name := "id", type := text } =
        some plan ∧ plan.key = ("id", text)) ∧
      r.planDeclared order crate crateRequest.overrides = .ok (r.planAll crateMatches) ∧
      Construction.choose (r.planAll crateMatches) crate none = .ok (crateById, 0) ∧
      crate.constructors[0]? = some crateById ∧
      r.selectFor order crate crateRequest =
        .ok (Construction.assemble (r.planAll crateMatches) crate crateById 0) := by
  intro r
  have hmatch : Matching.matchSlots order crate
      (OverrideSet.partition crateRequest.overrides).overrides = .ok crateMatches := by rfl
  have hplans : r.planDeclared order crate crateRequest.overrides =
      .ok (r.planAll crateMatches) :=
    Resolver.planDeclared_eq_ok_iff.mpr ⟨by rfl, crateMatches, hmatch, rfl⟩
  have hchoose : Construction.choose (r.planAll crateMatches) crate none =
      .ok (crateById, 0) := by rfl
  obtain ⟨hmatched, hdeclared⟩ := Resolver.plans_cover r order crate
  obtain ⟨hslots, hcovers⟩ := hmatched _ _ hmatch
  obtain ⟨_, hrange, hselect⟩ := hdeclared crateRequest _ hplans
  refine ⟨hslots, ?_, ?_, hplans, hchoose, hrange _ _ hchoose, ?_⟩
  · rw [hcovers.keys]
    decide
  · exact hcovers.parameter _ (List.mem_cons_of_mem _ (List.mem_cons_self ..)) _
      (List.mem_cons_self ..)
  · rw [hselect, show crateRequest.constructor = none from rfl, hchoose]
    rfl

end Sample

end ObjectMapping
