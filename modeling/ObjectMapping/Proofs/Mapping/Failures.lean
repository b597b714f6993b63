import ObjectMapping.Proofs.Mapping.Result

namespace ObjectMapping

theorem PropertyPlan.conversionFailure?_eq_some_iff {plan : PropertyPlan}
    {reason : UnresolvedReason} :
    plan.conversionFailure? = some reason ↔
      reason ≠ .unmatched ∧ ∃ source, plan.resolution = .unresolved source reason := by
  rw [conversionFailure?, Option.filter_eq_some_iff, and_comm]
  have hkind : reason.isConversionFailure = true ↔ reason ≠ .unmatched := by
    cases reason <;> simp [UnresolvedReason.isConversionFailure]
  have hreason : plan.reason? = some reason ↔
      ∃ source, plan.resolution = .unresolved source reason := by
    unfold reason?
    cases plan.resolution <;> simp
  rw [hkind, hreason]

namespace Construction

def Fails (plans : List PropertyPlan) (key : String × TypeRef) : Prop :=
  ∃ plan ∈ plans, plan.key = key ∧ plan.conversionFailure?.isSome = true

instance (plans : List PropertyPlan) (key : String × TypeRef) : Decidable (Fails plans key) :=
  inferInstanceAs (Decidable (∃ plan ∈ plans, _))

variable {plans : List PropertyPlan} {target : TypeDescriptor} {c : Constructor}
  {u : UnresolvedProperty}

/-- What is unresolved are the slots whose value could not be converted. -/
theorem mem_unresolvedOf :
    u ∈ unresolvedOf plans ↔
      ∃ plan ∈ plans, plan.key = u.key ∧ plan.conversionFailure? = some u.reason := by
  simp only [unresolvedOf, List.mem_filterMap, Option.map_eq_some_iff]
  constructor
  · rintro ⟨plan, hplan, reason, hreason, rfl⟩
    exact ⟨plan, hplan, rfl, hreason⟩
  · rintro ⟨plan, hplan, hkey, hreason⟩
    refine ⟨plan, hplan, u.reason, hreason, ?_⟩
    have hname : plan.target = u.name := congrArg Prod.fst hkey
    have htype : plan.targetType = u.type := congrArg Prod.snd hkey
    rw [hname, htype]

theorem map_key_unresolvedOf (plans : List PropertyPlan) :
    (unresolvedOf plans).map UnresolvedProperty.key =
      (plans.filter (·.conversionFailure?.isSome)).map (·.key) := by
  induction plans with
  | nil => rfl
  | cons plan rest ih =>
    cases hfailure : plan.conversionFailure? with
    | none =>
      rw [unresolvedOf, List.filterMap_cons_none (by rw [hfailure]; rfl),
        List.filter_cons_of_neg (by simp [hfailure]), ← ih, unresolvedOf]
    | some reason =>
      rw [unresolvedOf, List.filterMap_cons_some (by rw [hfailure]; rfl),
        List.filter_cons_of_pos (by simp [hfailure]), List.map_cons, List.map_cons, ← ih,
        unresolvedOf]
      rfl

theorem fails_key_iff (hk : (plans.map (·.key)).Nodup) {plan : PropertyPlan} (hp : plan ∈ plans) :
    Fails plans plan.key ↔ plan.conversionFailure?.isSome = true := by
  constructor
  · rintro ⟨found, hfound, hkey, hfails⟩
    rwa [← List.inj_on_of_nodup_map hk hfound hp hkey]
  · intro hfails
    exact ⟨plan, hp, rfl, hfails⟩

/-- Among the plans for the given properties, those that fail are for the slots that fail. -/
theorem map_key_unresolvedOf_planFor? (hk : (plans.map (·.key)).Nodup) (ps : List Property) :
    (unresolvedOf (ps.filterMap (planFor? plans))).map UnresolvedProperty.key =
      (ps.filter (Fails plans ·.key)).map Property.key := by
  rw [map_key_unresolvedOf]
  induction ps with
  | nil => rfl
  | cons p rest ih =>
    cases hp : planFor? plans p with
    | none =>
      -- a slot that fails has a plan
      have hno : ¬ Fails plans p.key := by
        rintro ⟨plan, hplan, hkey, _⟩
        rw [(planFor?_eq_some_iff hk).mpr ⟨hplan, hkey⟩] at hp
        cases hp
      rw [List.filterMap_cons_none hp, List.filter_cons_of_neg (by simpa using hno), ih]
    | some plan =>
      obtain ⟨hplan, hkey⟩ := planFor?_eq_some hp
      have hfails := fails_key_iff hk hplan
      rw [hkey] at hfails
      rw [List.filterMap_cons_some hp]
      by_cases hyes : Fails plans p.key
      · rw [List.filter_cons_of_pos (a := plan) (hfails.mp hyes),
          List.filter_cons_of_pos (a := p) (by simpa using hyes), List.map_cons, List.map_cons, ih,
          hkey]
      · rw [List.filter_cons_of_neg (a := plan) (mt hfails.mpr hyes),
          List.filter_cons_of_neg (a := p) (by simpa using hyes), ih]

/-- What is listed in an assembled result are the failures among all plans. -/
theorem mem_unresolved_assemble (hk : (plans.map (·.key)).Nodup) (i : Nat) :
    u ∈ (assemble plans target c i).unresolved ↔
      ∃ plan ∈ plans, plan.key = u.key ∧ plan.conversionFailure? = some u.reason := by
  have hfound {ps : List Property} {plan : PropertyPlan}
      (h : plan ∈ ps.filterMap (planFor? plans)) : plan ∈ plans := by
    obtain ⟨p, _, hp⟩ := List.mem_filterMap.mp h
    exact (planFor?_eq_some hp).1
  let used := c.parameters.filterMap (planFor? plans) ++
    (openProperties target c).filterMap (planFor? plans)
  have hused : ∀ plan ∈ used, plan ∈ plans := by
    intro plan h
    exact (List.mem_append.mp h).elim hfound hfound
  have hlisted : (assemble plans target c i).unresolved = unresolvedOf used ++
      unresolvedOf (plans.filter fun plan =>
        plan.key ∉ (unresolvedOf used).map UnresolvedProperty.key) := rfl
  rw [hlisted, List.mem_append, mem_unresolvedOf, mem_unresolvedOf]
  constructor
  · rintro (⟨plan, hplan, hfails⟩ | ⟨plan, hplan, hfails⟩)
    · exact ⟨plan, hused plan hplan, hfails⟩
    · exact ⟨plan, List.mem_of_mem_filter hplan, hfails⟩
  · rintro ⟨plan, hplan, hkey, hreason⟩
    by_cases hkeys : plan.key ∈ (unresolvedOf used).map UnresolvedProperty.key
    · -- the failure listed under this key is the one of this very plan
      obtain ⟨v, hv, hvkey⟩ := List.mem_map.mp hkeys
      obtain ⟨found, hfound, hfoundkey, _⟩ := mem_unresolvedOf.mp hv
      have hsame : found = plan :=
        List.inj_on_of_nodup_map hk (hused found hfound) hplan (hfoundkey.trans hvkey)
      exact Or.inl ⟨plan, hsame ▸ hfound, hkey, hreason⟩
    · exact Or.inr ⟨plan, List.mem_filter.mpr ⟨hplan, by simpa using hkeys⟩, hkey, hreason⟩

/-- The failures are listed in three blocks: for the parameters, for the properties that are left
open, and for all other slots. -/
theorem map_key_unresolved_assemble (hk : plans.map (·.key) = target.slots.map Slot.key) (i : Nat) :
    (assemble plans target c i).unresolved.map UnresolvedProperty.key =
      (c.parameters.filter (Fails plans ·.key)).map Property.key ++
        ((openProperties target c).filter (Fails plans ·.key)).map Property.key ++
        (target.slots.filter fun s =>
          s.key ∉ (c.parameters ++ openProperties target c).map Property.key ∧
            Fails plans s.key).map Slot.key := by
  have hnodup : (plans.map (·.key)).Nodup := hk ▸ target.nodup_slot_keys
  let used := c.parameters ++ openProperties target c
  let listed := (used.filter (Fails plans ·.key)).map Property.key
  have hlisted : (unresolvedOf (used.filterMap (planFor? plans))).map UnresolvedProperty.key =
      listed := map_key_unresolvedOf_planFor? hnodup used
  -- a slot that fails is listed above exactly if it is one of those used there
  have hleft (key : String × TypeRef) : key ∉ listed ∧ Fails plans key ↔
      key ∉ used.map Property.key ∧ Fails plans key := by
    refine and_congr_left fun hfails => not_congr ?_
    simp only [listed, List.mem_map, List.mem_filter, decide_eq_true_eq]
    constructor
    · rintro ⟨p, ⟨hp, _⟩, rfl⟩
      exact ⟨p, hp, rfl⟩
    · rintro ⟨p, hp, rfl⟩
      exact ⟨p, ⟨hp, hfails⟩, rfl⟩
  have helsewhere : (unresolvedOf (plans.filter (·.key ∉ listed))).map UnresolvedProperty.key =
      (target.slots.filter fun s =>
        s.key ∉ used.map Property.key ∧ Fails plans s.key).map Slot.key := by
    calc (unresolvedOf (plans.filter (·.key ∉ listed))).map UnresolvedProperty.key
        = (plans.filter fun plan =>
            plan.key ∉ used.map Property.key ∧ Fails plans plan.key).map (·.key) := by
          rw [map_key_unresolvedOf, List.filter_filter]
          congr 1
          refine List.filter_congr fun plan hplan => ?_
          rw [Bool.eq_iff_iff, Bool.and_eq_true, decide_eq_true_eq, decide_eq_true_eq, and_comm,
            ← fails_key_iff hnodup hplan]
          exact hleft plan.key
      _ = (plans.map (·.key)).filter fun key =>
            key ∉ used.map Property.key ∧ Fails plans key := by
          rw [List.filter_map]
          rfl
      _ = _ := by
          rw [hk, List.filter_map]
          rfl
  have hsplit : listed = (c.parameters.filter (Fails plans ·.key)).map Property.key ++
      ((openProperties target c).filter (Fails plans ·.key)).map Property.key := by
    simp only [listed, used, List.filter_append, List.map_append]
  rw [Selection.unresolved, List.map_append, assemble, ← List.filterMap_append, hlisted,
    helsewhere, hsplit]

/-- No failure is listed twice unless parameters or properties are repeated. -/
theorem nodup_key_unresolved_assemble (hk : plans.map (·.key) = target.slots.map Slot.key) (i : Nat)
    (hc : (c.parameters.map Property.key).Nodup)
    (ht : (target.mutableProperties.map Property.key).Nodup) :
    ((assemble plans target c i).unresolved.map UnresolvedProperty.key).Nodup := by
  have hopen : ((openProperties target c).map Property.key).Nodup :=
    (List.filter_sublist.map _).nodup ht
  -- a property that is left open has no name of a parameter, so the first two blocks are apart
  have hapart : ∀ k ∈ c.parameters.map Property.key,
      k ∉ (openProperties target c).map Property.key := by
    intro k hparameter hproperty
    obtain ⟨p, hp, rfl⟩ := List.mem_map.mp hparameter
    obtain ⟨q, hq, hkey⟩ := List.mem_map.mp hproperty
    have hfree := of_decide_eq_true (List.mem_filter.mp hq).2
    have hname : q.name = p.name := congrArg Prod.fst hkey
    exact hfree (hname ▸ List.mem_map_of_mem hp)
  have hblock (ps : List Property) :
      (ps.filter (Fails plans ·.key)).map Property.key ⊆ ps.map Property.key :=
    List.map_subset _ (List.filter_subset_self ps)
  rw [map_key_unresolved_assemble hk]
  refine List.nodup_append.mpr ⟨List.nodup_append.mpr ⟨?_, ?_, ?_⟩, ?_, ?_⟩
  · exact (List.filter_sublist.map _).nodup hc
  · exact (List.filter_sublist.map _).nodup hopen
  · rintro k hparameter _ hproperty rfl
    exact hapart k (hblock _ hparameter) (hblock _ hproperty)
  · exact (List.filter_sublist.map _).nodup target.nodup_slot_keys
  · rintro k hused _ hslot rfl
    obtain ⟨s, hs, rfl⟩ := List.mem_map.mp hslot
    have hfree := (of_decide_eq_true (List.mem_filter.mp hs).2).1
    rw [List.map_append, List.mem_append, not_or] at hfree
    rcases List.mem_append.mp hused with hparameter | hproperty
    · exact hfree.1 (hblock _ hparameter)
    · exact hfree.2 (hblock _ hproperty)

end Construction

open Construction in
/-- The result accounts for each failure among the plans of all slots, where `c` is the constructor
that is called. -/
structure MappingResult.AccountsFor (target : TypeDescriptor) (plans : List PropertyPlan)
    (c : Constructor) (result : MappingResult) : Prop where
  listed : ∀ u, u ∈ result.unresolved ↔
    ∃ slot ∈ target.slots, slot.key = u.key ∧
      ∃ plan ∈ plans, plan.key = slot.key ∧
        u.reason ≠ .unmatched ∧ ∃ name, plan.resolution = .unresolved name u.reason
  -- first come parameters, then the properties left open, then all other slots
  order : result.unresolved.map UnresolvedProperty.key =
    (c.parameters.filter (Fails plans ·.key)).map Property.key ++
      ((openProperties target c).filter (Fails plans ·.key)).map Property.key ++
      (target.slots.filter fun s =>
        s.key ∉ (c.parameters ++ openProperties target c).map Property.key ∧
          Fails plans s.key).map Slot.key
  distinct : (c.parameters.map Property.key).Nodup →
    (target.mutableProperties.map Property.key).Nodup →
    (result.unresolved.map UnresolvedProperty.key).Nodup

/-- No conversion that fails is hidden by a result. -/
theorem Resolver.resolvePair_accounts (r : Resolver) (source target : TypeDescriptor)
    (request : MappingRequest) (result : MappingResult)
    (h : r.resolvePair source target request = .ok result) :
    ∃ plans c, r.planDeclared source target request.overrides = .ok plans ∧
      target.constructors[result.constructorIndex]? = some c ∧
      result.AccountsFor target plans c := by
  obtain ⟨plans, c, i, hplans, hchoose, rfl⟩ := resolvePair_eq_ok_iff.mp h
  have hslots := map_key_of_planDeclared hplans
  refine ⟨plans, c, hplans, (Construction.choose_eq_ok hchoose).1, ?_⟩
  constructor
  case listed =>
    intro u
    have hlisted : u ∈ (Construction.assemble plans target c i).unresolved ↔ _ :=
      Construction.mem_unresolved_assemble (nodup_keys_of_planDeclared hplans) i
    rw [Selection.result, hlisted]
    constructor
    · rintro ⟨plan, hplan, hkey, hreason⟩
      have hslot : plan.key ∈ target.slots.map Slot.key := hslots ▸ List.mem_map_of_mem hplan
      obtain ⟨slot, hslot, hslotkey⟩ := List.mem_map.mp hslot
      exact ⟨slot, hslot, hslotkey.trans hkey, plan, hplan, hslotkey.symm,
        PropertyPlan.conversionFailure?_eq_some_iff.mp hreason⟩
    · rintro ⟨slot, _, hkey, plan, hplan, hplankey, hfails⟩
      exact ⟨plan, hplan, hplankey.trans hkey,
        PropertyPlan.conversionFailure?_eq_some_iff.mpr hfails⟩
  case order => exact Construction.map_key_unresolved_assemble hslots i
  case distinct => exact Construction.nodup_key_unresolved_assemble hslots i

namespace Sample

def parcel : TypeDescriptor where
  name := "Parcel"
  properties :=
    [{ name := "items", type := { name := "Int" }, mutable := true },
      { name := "note", type := { name := "Boolean" }, mutable := true }]
  constructors :=
    [⟨[{ name := "note", type := text }]⟩,
      ⟨[{ name := "id", type := long }, { name := "items", type := long, required := false }]⟩]

def parcelResult : MappingResult where
  sourceType := "Order"
  targetType := "Parcel"
  constructor := ⟨[long, long]⟩
  constructorIndex := 1
  properties :=
    [{ target := "id", targetType := long,
       resolution := .matchedByName "id" (.direct long long .none) }]
  unresolved :=
    [⟨"items", long, .noConverter (listOf long.toNullable) long⟩,
      ⟨"note", { name := "Boolean" }, .nullabilityMismatch text.toNullable { name := "Boolean" }⟩,
      ⟨"note", text, .nullabilityMismatch text.toNullable text⟩,
      ⟨"items", { name := "Int" }, .noConverter (listOf long.toNullable) { name := "Int" }⟩]

/-- Failures of a parameter, of a property, of another constructor and of a property that the
parameter hides. -/
theorem parcel_accounts :
    Resolver.resolvePair ⟨.standard, false⟩ order parcel { source := "Order", target := "Parcel" } =
        .ok parcelResult ∧
      ∃ plans c,
        Resolver.planDeclared ⟨.standard, false⟩ order parcel [] = .ok plans ∧
        parcel.constructors[1]? = some c ∧ parcelResult.AccountsFor parcel plans c :=
  ⟨by rfl, Resolver.resolvePair_accounts ⟨.standard, false⟩ order parcel
    { source := "Order", target := "Parcel" } parcelResult (by rfl)⟩

end Sample

end ObjectMapping
