import ObjectMapping.Proofs.Mapping.Selection

namespace ObjectMapping

def Selection.result (s : Selection) (source target : TypeDescriptor) : MappingResult where
  sourceType := source.name
  targetType := target.name
  constructor := s.signature
  constructorIndex := s.index
  properties := s.properties
  unresolved := s.unresolved

/-- A mapping succeeds exactly if its slots can be planned and a constructor can be chosen. -/
theorem Resolver.resolvePair_eq_ok_iff {r : Resolver} {source target : TypeDescriptor}
    {request : MappingRequest} {result : MappingResult} :
    r.resolvePair source target request = .ok result ↔
      ∃ plans c i, r.planDeclared source target request.overrides = .ok plans ∧
        Construction.choose plans target request.constructor = .ok (c, i) ∧
        result = (Construction.assemble plans target c i).result source target := by
  unfold resolvePair selectFor
  cases r.planDeclared source target request.overrides with
  | error es => simp
  | ok plans =>
    simp only [Construction.select_eq]
    cases hchoose : Construction.choose plans target request.constructor with
    | error e => simp [Except.map, Except.mapError, hchoose]
    | ok ci =>
      constructor
      · intro h
        exact ⟨plans, ci.1, ci.2, rfl, hchoose, (Except.ok.inj h).symm⟩
      · rintro ⟨_, _, _, hplans, hci, rfl⟩
        cases hplans
        rw [hchoose] at hci
        cases hci
        rfl

open Construction in
/-- The result is complete for the plans of all slots and the constructor `c` of the target. -/
structure MappingResult.Complete (target : TypeDescriptor) (plans : List PropertyPlan)
    (c : Constructor) (result : MappingResult) : Prop where
  index : target.constructors[result.constructorIndex]? = some c
  signature : result.constructor = c.signature
  required : ∀ p ∈ c.parameters, p.required = true →
    ∃ e ∈ result.properties, e.phase = .constructor ∧ e.key = p.key
  resolved : ∀ e ∈ result.properties,
    e.resolution ≠ .ignored ∧ ∀ name reason, e.resolution ≠ .unresolved name reason
  -- all that is listed was planned for its slot
  planned : ∀ e ∈ result.properties, ∃ plan ∈ plans, e = { plan with phase := e.phase }
  -- the arguments follow the parameters with a value, and the assignments the mutable properties
  -- with a value that no parameter is named like
  blocks : ∃ arguments assignments, result.properties = arguments ++ assignments ∧
    arguments.map (fun e => (e.key, e.phase)) =
      (c.parameters.filter (HasValue plans ·)).map (fun p => (p.key, .constructor)) ∧
    assignments.map (fun e => (e.key, e.phase)) =
      (target.properties.filter fun p =>
        p.mutable ∧ p.name ∉ c.parameters.map (·.name) ∧ HasValue plans p).map
        (fun p => (p.key, .postConstruction))
  -- no property is listed twice unless the names of parameters or properties are
  distinct : (c.parameters.map (·.name)).Nodup → target.propertyNames.Nodup →
    (result.properties.map (·.target)).Nodup

namespace Construction

variable {plans : List PropertyPlan} {target : TypeDescriptor} {c : Constructor} (i : Nat)

/-- All that is listed was planned and has a value. -/
theorem mem_assemble_properties {e : PropertyPlan}
    (he : e ∈ (assemble plans target c i).properties) :
    ∃ plan ∈ plans, plan.isResolved = true ∧ e = { plan with phase := e.phase } := by
  have hplanned {phase : AssignmentPhase} {ps : List Property}
      (h : e ∈ inPhase phase (ps.filterMap (planFor? plans))) :
      ∃ plan ∈ plans, plan.isResolved = true ∧ e = { plan with phase := e.phase } := by
    obtain ⟨plan, hplan, hres, rfl⟩ := mem_inPhase.mp h
    obtain ⟨p, _, hp⟩ := List.mem_filterMap.mp hplan
    exact ⟨plan, (planFor?_eq_some hp).1, hres, rfl⟩
  rcases List.mem_append.mp he with he | he
  · exact hplanned he
  · exact hplanned he

theorem map_assignments (hk : (plans.map (·.key)).Nodup) :
    (inPhase .postConstruction ((openProperties target c).filterMap (planFor? plans))).map
        (fun e => (e.key, e.phase)) =
      (target.properties.filter fun p =>
        p.mutable ∧ p.name ∉ c.parameters.map (·.name) ∧ HasValue plans p).map
        fun p => (p.key, .postConstruction) := by
  rw [map_inPhase hk, openProperties_eq, List.filter_filter]
  congr 2
  funext p
  simp [Bool.and_comm, Bool.and_left_comm]

/-- Entries come in the order of the properties that have a value. -/
theorem map_target_inPhase {phase : AssignmentPhase} (hk : (plans.map (·.key)).Nodup)
    (ps : List Property) :
    (inPhase phase (ps.filterMap (planFor? plans))).map (·.target) =
      (ps.filter (HasValue plans ·)).map (·.name) := by
  have h : (inPhase phase (ps.filterMap (planFor? plans))).map (fun e => (e.key, e.phase)) =
      (ps.filter (HasValue plans ·)).map fun p => (p.key, phase) := map_inPhase hk ps
  have hnames := congrArg (List.map fun e => e.1.1) h
  rwa [List.map_map, List.map_map] at hnames

/-- Arguments and assignments have different targets: no parameter is named like a property that
is left open. -/
theorem nodup_targets (hk : (plans.map (·.key)).Nodup) (hc : (c.parameters.map (·.name)).Nodup)
    (ht : target.propertyNames.Nodup) :
    ((assemble plans target c i).properties.map (·.target)).Nodup := by
  have hopen : (openProperties target c).Sublist target.properties :=
    List.filter_sublist.trans List.filter_sublist
  rw [assemble, List.map_append, map_target_inPhase hk, map_target_inPhase hk]
  refine List.nodup_append.mpr ⟨?_, ?_, ?_⟩
  · exact (List.filter_sublist.map _).nodup hc
  · exact ((List.filter_sublist.trans hopen).map _).nodup ht
  · intro name hargument other hassignment heq
    subst heq
    obtain ⟨p, hp, rfl⟩ := List.mem_map.mp hargument
    obtain ⟨q, hq, hname⟩ := List.mem_map.mp hassignment
    have hfree := of_decide_eq_true (List.mem_filter.mp (List.mem_of_mem_filter hq)).2
    rw [hname] at hfree
    exact hfree (List.mem_map_of_mem (List.mem_of_mem_filter hp))

/-- Every required parameter of a satisfiable constructor gets an argument. -/
theorem exists_argument (hsat : isSatisfiable plans c = true) {p : Property}
    (hp : p ∈ c.required) :
    ∃ e ∈ (assemble plans target c i).properties, e.phase = .constructor ∧ e.key = p.key := by
  obtain ⟨plan, hplan, hres⟩ := blocker?_eq_none_iff.mp (isSatisfiable_iff.mp hsat p hp)
  refine ⟨{ plan with phase := .constructor }, ?_, rfl, (planFor?_eq_some hplan).2⟩
  refine List.mem_append_left _ (mem_inPhase.mpr ⟨plan, ?_, hres, rfl⟩)
  exact List.mem_filterMap.mpr ⟨p, List.mem_of_mem_filter hp, hplan⟩

end Construction

namespace PropertyPlan

theorem isResolved_iff {plan : PropertyPlan} :
    plan.isResolved = true ↔
      plan.resolution ≠ .ignored ∧ ∀ name reason, plan.resolution ≠ .unresolved name reason := by
  cases hres : plan.resolution <;> simp [isResolved, hres]

end PropertyPlan

/-- Whatever is returned as the result of a mapping is complete. -/
theorem Resolver.resolvePair_complete (r : Resolver) (source target : TypeDescriptor)
    (request : MappingRequest) (result : MappingResult)
    (h : r.resolvePair source target request = .ok result) :
    ∃ plans c, r.planDeclared source target request.overrides = .ok plans ∧
      result.Complete target plans c := by
  obtain ⟨plans, c, i, hplans, hchoose, rfl⟩ := resolvePair_eq_ok_iff.mp h
  obtain ⟨hindex, hsat⟩ := Construction.choose_eq_ok hchoose
  have hk := nodup_keys_of_planDeclared hplans
  refine ⟨plans, c, hplans, ?_⟩
  constructor
  case index => exact hindex
  case signature => rfl
  case required =>
    intro p hp hrequired
    exact Construction.exists_argument i hsat (List.mem_filter.mpr ⟨hp, hrequired⟩)
  case resolved =>
    intro e he
    obtain ⟨plan, _, hres, heq⟩ := Construction.mem_assemble_properties i he
    rw [heq]
    exact PropertyPlan.isResolved_iff.mp hres
  case planned =>
    intro e he
    obtain ⟨plan, hplan, _, heq⟩ := Construction.mem_assemble_properties i he
    exact ⟨plan, hplan, heq⟩
  case blocks =>
    exact ⟨_, _, rfl, Construction.map_inPhase hk c.parameters, Construction.map_assignments hk⟩
  case distinct =>
    intro hc ht
    exact Construction.nodup_targets i hk hc ht

/-! ### A mapping between two small types -/

namespace Sample

def long : TypeRef := { name := "Long" }

def text : TypeRef := { name := "String" }

def listOf (element : TypeRef) : TypeRef := { name := "List", arguments := [element] }

def order : TypeDescriptor where
  name := "Order"
  properties :=
    [{ name := "id", type := long }, { name := "items", type := listOf long.toNullable },
      { name := "note", type := text.toNullable }]

def invoice : TypeDescriptor where
  name := "Invoice"
  properties :=
    [{ name := "items", type := listOf text.toNullable, mutable := true },
      { name := "note", type := text, mutable := true }]
  constructors :=
    [⟨[{ name := "id", type := long }]⟩,
      ⟨[{ name := "id", type := text }, { name := "label", type := text, required := false }]⟩]

def request : MappingRequest where
  source := "Order"
  target := "Invoice"
  overrides := [{ target := "label", constant := some "final" }]

def toText (source target : TypeRef) (nullHandling : NullHandling) : ConversionStep where
  source := source
  target := target
  nullHandling := nullHandling
  converter := some ⟨5, "ToString", 5000⟩

def itemsStep : ConversionStep where
  source := listOf long.toNullable
  target := listOf text.toNullable
  nullHandling := .none
  converter := some ⟨3, "IterableToIterable", 3000⟩
  elements := [toText long.toNullable text.toNullable .propagate]

def result : MappingResult where
  sourceType := "Order"
  targetType := "Invoice"
  constructor := ⟨[text, text]⟩
  constructorIndex := 1
  properties :=
    [{ target := "id", targetType := text,
       resolution := .matchedByName "id" (toText long text .none) },
      { target := "label", targetType := text, resolution := .constant "final" },
      { target := "items", targetType := listOf text.toNullable,
        resolution := .matchedByName "items" itemsStep, phase := .postConstruction }]
  unresolved := [⟨"note", text, .nullabilityMismatch text.toNullable text⟩]

end Sample

/-- A result for a target with two constructors, an optional parameter and a mutable property that
cannot be converted. -/
theorem Sample.result_complete :
    Resolver.resolvePair ⟨.standard, false⟩ Sample.order Sample.invoice Sample.request =
        .ok Sample.result ∧
      ∃ plans c,
        Resolver.planDeclared ⟨.standard, false⟩ Sample.order Sample.invoice
          Sample.request.overrides = .ok plans ∧
        Sample.result.Complete Sample.invoice plans c :=
  ⟨by rfl, Resolver.resolvePair_complete ⟨.standard, false⟩ Sample.order Sample.invoice
    Sample.request Sample.result (by rfl)⟩

end ObjectMapping
