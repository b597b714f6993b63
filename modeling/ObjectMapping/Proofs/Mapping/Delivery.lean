import ObjectMapping.Proofs.Mapping.Result

/-!
Delivery of values. A value found for a mutable property is assigned after construction if no
parameter is named like the property. Otherwise it is left to the constructor, and nothing is
delivered if all parameters of that name are left out.
-/

namespace ObjectMapping

namespace Construction

variable {plans : List PropertyPlan} {target : TypeDescriptor} {c : Constructor} {name : String}
  {phase : AssignmentPhase} {p : Property}

/-- An argument is passed for a parameter of this name. -/
def Passes (plans : List PropertyPlan) (c : Constructor) (name : String) : Prop :=
  ∃ q ∈ c.parameters, q.name = name ∧ HasValue plans q

/-- An entry of a name is there exactly if a slot of that name gets a value. -/
theorem exists_inPhase_iff (phase : AssignmentPhase) (hk : (plans.map (·.key)).Nodup)
    (ps : List Property) :
    (∃ e ∈ inPhase phase (ps.filterMap (planFor? plans)), e.target = name) ↔
      ∃ q ∈ ps, q.name = name ∧ HasValue plans q := by
  have hnames : name ∈ (inPhase phase (ps.filterMap (planFor? plans))).map (·.target) ↔
      name ∈ (ps.filter (HasValue plans ·)).map (·.name) := by rw [map_target_inPhase hk]
  rw [List.mem_map, List.mem_map] at hnames
  rw [hnames]
  constructor
  · rintro ⟨q, hq, hname⟩
    obtain ⟨hq, hvalue⟩ := List.mem_filter.mp hq
    exact ⟨q, hq, hname, of_decide_eq_true hvalue⟩
  · rintro ⟨q, hq, hname, hvalue⟩
    exact ⟨q, List.mem_filter.mpr ⟨hq, decide_eq_true hvalue⟩, hname⟩

theorem phase_of_mem_inPhase {e : PropertyPlan} (h : e ∈ inPhase phase plans) :
    e.phase = phase := by
  obtain ⟨plan, _, _, rfl⟩ := mem_inPhase.mp h
  rfl

theorem mem_openProperties :
    p ∈ openProperties target c ↔
      p ∈ target.mutableProperties ∧ p.name ∉ c.parameters.map (·.name) := by
  rw [openProperties, List.mem_filter, decide_eq_true_eq]

/-- The arguments in an assembled result are for the names of the parameters with a value. -/
theorem exists_argument_iff (hk : (plans.map (·.key)).Nodup) (i : Nat) :
    (∃ e ∈ (assemble plans target c i).properties, e.target = name ∧ e.phase = .constructor) ↔
      Passes plans c name := by
  rw [Passes, ← exists_inPhase_iff .constructor hk c.parameters]
  constructor
  · rintro ⟨e, he, hname, hphase⟩
    rcases List.mem_append.mp he with he | he
    · exact ⟨e, he, hname⟩
    · rw [phase_of_mem_inPhase he] at hphase
      cases hphase
  · rintro ⟨e, he, hname⟩
    exact ⟨e, List.mem_append_left _ he, hname, phase_of_mem_inPhase he⟩

/-- The assignments in an assembled result are for the names of the open properties with a
value. -/
theorem exists_assignment_iff (hk : (plans.map (·.key)).Nodup) (i : Nat) :
    (∃ e ∈ (assemble plans target c i).properties,
        e.target = name ∧ e.phase = .postConstruction) ↔
      ∃ q ∈ openProperties target c, q.name = name ∧ HasValue plans q := by
  rw [← exists_inPhase_iff .postConstruction hk (openProperties target c)]
  constructor
  · rintro ⟨e, he, hname, hphase⟩
    rcases List.mem_append.mp he with he | he
    · rw [phase_of_mem_inPhase he] at hphase
      cases hphase
    · exact ⟨e, he, hname⟩
  · rintro ⟨e, he, hname⟩
    exact ⟨e, List.mem_append_right _ he, hname, phase_of_mem_inPhase he⟩

end Construction

open Construction in
/-- A value found for a mutable property is delivered in two ways only. It is left to the arguments
exactly if one is passed for a parameter of the same name, and it is assigned exactly if there is no
such parameter. -/
theorem Resolver.resolvePair_delivers (r : Resolver) (source target : TypeDescriptor)
    (request : MappingRequest) (result : MappingResult)
    (h : r.resolvePair source target request = .ok result) :
    ∃ plans c, r.planDeclared source target request.overrides = .ok plans ∧
      target.constructors[result.constructorIndex]? = some c ∧
      ∀ p ∈ target.mutableProperties, HasValue plans p →
        ((∃ e ∈ result.properties, e.target = p.name ∧ e.phase = .constructor) ↔
          Passes plans c p.name) ∧
        ((∃ e ∈ result.properties, e.target = p.name ∧ e.phase = .postConstruction) ↔
          p.name ∉ c.parameters.map (·.name)) := by
  obtain ⟨plans, c, i, hplans, hchoose, rfl⟩ := resolvePair_eq_ok_iff.mp h
  have hk := nodup_keys_of_planDeclared hplans
  refine ⟨plans, c, hplans, (choose_eq_ok hchoose).1, ?_⟩
  intro p hp hvalue
  refine ⟨exists_argument_iff hk i, (exists_assignment_iff hk i).trans ?_⟩
  constructor
  · rintro ⟨q, hq, hname, _⟩
    exact hname ▸ (mem_openProperties.mp hq).2
  · intro hfree
    exact ⟨p, mem_openProperties.mpr ⟨hp, hfree⟩, rfl, hvalue⟩

namespace Sample

/-- The items of an invoice are assigned, since its constructor has no parameter of that name. -/
theorem items_delivered :
    Resolver.resolvePair ⟨.standard, false⟩ order invoice request = .ok result ∧
      ∃ plans c,
        Resolver.planDeclared ⟨.standard, false⟩ order invoice request.overrides = .ok plans ∧
        invoice.constructors[result.constructorIndex]? = some c ∧
        ∀ p ∈ invoice.mutableProperties, Construction.HasValue plans p →
          ((∃ e ∈ result.properties, e.target = p.name ∧ e.phase = .constructor) ↔
            Construction.Passes plans c p.name) ∧
          ((∃ e ∈ result.properties, e.target = p.name ∧ e.phase = .postConstruction) ↔
            p.name ∉ c.parameters.map (·.name)) :=
  ⟨by rfl, Resolver.resolvePair_delivers ⟨.standard, false⟩ order invoice request result (by rfl)⟩

def draft : TypeDescriptor where
  name := "Draft"
  properties := [{ name := "note", type := { name := "Boolean" } }]

def memo : TypeDescriptor where
  name := "Memo"
  properties := [{ name := "note", type := { name := "Boolean" }, mutable := true }]
  constructors := [⟨[{ name := "note", type := long, required := false }]⟩]

def memoResult : MappingResult where
  sourceType := "Draft"
  targetType := "Memo"
  constructor := ⟨[long]⟩
  constructorIndex := 0
  properties := []
  unresolved := [⟨"note", long, .noConverter { name := "Boolean" } long⟩]

/-- The note of a draft is found for the note of a memo and yet does not get there: the parameter
of the same name is left out, and the property is not assigned either. -/
theorem note_lost :
    Resolver.resolvePair ⟨.standard, false⟩ draft memo { source := "Draft", target := "Memo" } =
        .ok memoResult ∧
      ∃ plans, Resolver.planDeclared ⟨.standard, false⟩ draft memo [] = .ok plans ∧
        ∃ p ∈ memo.mutableProperties, Construction.HasValue plans p ∧
          ¬∃ e ∈ memoResult.properties, e.target = p.name := by
  refine ⟨by rfl, _, rfl, _, List.mem_singleton_self _, ?_, nofun⟩
  decide

end Sample

end ObjectMapping
