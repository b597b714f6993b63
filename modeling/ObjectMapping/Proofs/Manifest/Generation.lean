import ObjectMapping.Generation
import ObjectMapping.Proofs.Manifest.Requests

namespace ObjectMapping

/-! ### Outcomes and mappers -/

namespace MappingOutcome

theorem results_eq_filterMap (outcomes : List MappingOutcome) :
    results outcomes = outcomes.filterMap result? :=
  rfl

/-- What is taken from outcomes is what is taken from those of the requests. -/
theorem filterMap_eq_of_map_outcome? {β : Type} {e : Engine} {requests : List MappingRequest}
    {outcomes : List MappingOutcome} (h : requests.map e.outcome? = outcomes.map some)
    (part? : MappingOutcome → Option β) :
    outcomes.filterMap part? = requests.filterMap fun q => (e.outcome? q).bind part? :=
  calc outcomes.filterMap part? = (outcomes.map some).filterMap (·.bind part?) := by
        rw [List.filterMap_map]
        rfl
    _ = requests.filterMap fun q => (e.outcome? q).bind part? := by
        rw [← h, List.filterMap_map]
        rfl

/-- The plans and the failures are all outcomes, and each one once. -/
theorem results_append_failures_perm (outcomes : List MappingOutcome) :
    ((results outcomes).map Except.ok ++ (failures outcomes).map Except.error).Perm
      outcomes := by
  induction outcomes with
  | nil => exact .refl _
  | cons outcome rest ih =>
    cases outcome with
    | ok result => exact ih.cons (.ok result)
    -- a failure has to pass all plans to stand in front again
    | error failure => exact List.perm_middle.trans (ih.cons (.error failure))

end MappingOutcome

/-- Each request has a plan or a failure, and not both. -/
theorem Engine.length_results_add_failures {e : Engine} {requests : List MappingRequest}
    (h : ∀ request ∈ requests, (e.outcome? request).isSome) :
    (requests.filterMap e.result?).length + (requests.filterMap e.failure?).length =
      requests.length := by
  induction requests with
  | nil => rfl
  | cons request rest ih =>
    obtain ⟨hrequest, hrest⟩ := List.forall_mem_cons.mp h
    obtain ⟨outcome, houtcome⟩ := Option.isSome_iff_exists.mp hrequest
    have ih := ih hrest
    simp only [List.filterMap_cons, result?, failure?, houtcome, Option.bind_some] at ih ⊢
    cases outcome <;> simp only [MappingOutcome.result?, MappingOutcome.failure?,
      List.length_cons] <;> omega

/-- Every mapper gets the plans of its own mappings. -/
theorem Mapper.distribute_eq_map {e : Engine} {mappers : List Mapper}
    {outcomes : List MappingOutcome}
    (h : (mappers.flatMap (·.mappings)).map e.outcome? = outcomes.map some) :
    distribute mappers outcomes =
      mappers.map fun mapper => (mapper, mapper.mappings.filterMap e.result?) := by
  induction mappers generalizing outcomes with
  | nil => rfl
  | cons mapper rest ih =>
    rw [List.flatMap_cons, List.map_append] at h
    -- the outcomes of the mapper's own mappings are as many as these and stand in front
    obtain ⟨own, others, rfl, hown, hothers⟩ := List.map_eq_append_iff.mp h.symm
    have hlength : own.length = mapper.mappings.length := by
      simpa using congrArg List.length hown
    rw [distribute, List.take_left' hlength, List.drop_left' hlength, ih hothers.symm,
      MappingOutcome.results_eq_filterMap,
      MappingOutcome.filterMap_eq_of_map_outcome? hown.symm MappingOutcome.result?, List.map_cons]
    rfl

def Mapper.unit (c : Config) (e : Engine) (mapper : Mapper) : PlanUnit where
  name := c.unitName mapper.name
  outputNamespace := mapper.outputNamespace
  results := mapper.mappings.filterMap e.result?

/-- What a generation has to hold for a manifest. -/
structure Generation.AccountsFor (g : Generation) (m : Manifest) (c : Config) (e : Engine) :
    Prop where
  -- there is a unit for each mapper, in order
  units : g.units = m.mappers.map (Mapper.unit c e)
  -- the failures are those of the mappings of all mappers, in order
  failures : g.failures = m.requests.filterMap e.failure?
  -- plans and failures are together the outcomes of all requests, each one once
  once : (((g.units.flatMap PlanUnit.results).map Except.ok ++ g.failures.map Except.error).map
    some).Perm (m.requests.map e.outcome?)
  -- the mappings of a mapper that its unit lacks are those that failed
  lacking : ∀ mapper ∈ m.mappers, (mapper.unit c e).results.length +
    (mapper.mappings.filterMap e.failure?).length = mapper.mappings.length

namespace Manifest

variable {m : Manifest} {workers : Workers} {assignments : List String} {c : Config} {e : Engine}

theorem catalog_of_engine (hengine : m.engine c = .ok e) : e.catalog = m.types := by
  obtain ⟨registry, _, he⟩ := bind_eq_ok_iff.mp hengine
  cases he
  rfl

theorem maxParallelJobs_of_engine (hengine : m.engine c = .ok e) :
    e.maxParallelJobs = c.maxParallelJobs := by
  obtain ⟨registry, _, he⟩ := bind_eq_ok_iff.mp hengine
  cases he
  rfl

/-- If nothing can be planned, that is the error of the run. -/
theorem generate_eq_error {error : GenerationError} (hconfig : m.config assignments = .ok c)
    (hengine : m.engine c = .ok e) (h : e.resolveAll workers m.requests = .error error) :
    m.generate workers assignments = .error (.generation error) := by
  rw [generate, hconfig]
  simp only [Except.mapError, bind, Except.bind, hengine, h]

theorem generate_eq_ok {outcomes : List MappingOutcome} (hconfig : m.config assignments = .ok c)
    (hengine : m.engine c = .ok e) (h : e.resolveAll workers m.requests = .ok outcomes) :
    m.generate workers assignments =
      .ok ⟨m.mappers.map (Mapper.unit c e), m.requests.filterMap e.failure?⟩ := by
  have houtcomes := Engine.map_outcome?_of_resolveAll h
  have hfailures : MappingOutcome.failures outcomes = m.requests.filterMap e.failure? :=
    MappingOutcome.filterMap_eq_of_map_outcome? houtcomes MappingOutcome.failure?
  rw [generate, hconfig]
  simp only [Except.mapError, bind, Except.bind, hengine, h, hfailures, pure, Except.pure,
    Mapper.distribute_eq_map houtcomes, List.map_map]
  rfl

/-- If mappings can be planned, the run accounts for all of them. -/
theorem exists_generate {outcomes : List MappingOutcome}
    (hconfig : m.config assignments = .ok c) (hengine : m.engine c = .ok e)
    (h : e.resolveAll workers m.requests = .ok outcomes) :
    ∃ g, m.generate workers assignments = .ok g ∧ g.AccountsFor m c e := by
  have houtcomes := Engine.map_outcome?_of_resolveAll h
  have hresults : (m.mappers.map (Mapper.unit c e)).flatMap PlanUnit.results =
      MappingOutcome.results outcomes :=
    calc (m.mappers.map (Mapper.unit c e)).flatMap PlanUnit.results
        = m.mappers.flatMap fun mapper => mapper.mappings.filterMap e.result? := List.flatMap_map ..
      _ = m.requests.filterMap e.result? := List.filterMap_flatMap.symm
      _ = MappingOutcome.results outcomes :=
        (MappingOutcome.filterMap_eq_of_map_outcome? houtcomes MappingOutcome.result?).symm
  have hfailures : m.requests.filterMap e.failure? = MappingOutcome.failures outcomes :=
    (MappingOutcome.filterMap_eq_of_map_outcome? houtcomes MappingOutcome.failure?).symm
  refine ⟨_, generate_eq_ok hconfig hengine h, ⟨rfl, rfl, ?_, ?_⟩⟩
  case refine_1 =>
    rw [hresults, hfailures, houtcomes]
    exact (MappingOutcome.results_append_failures_perm outcomes).map some
  case refine_2 =>
    intro mapper hmapper
    apply Engine.length_results_add_failures
    intro request hrequest
    have hmem : e.outcome? request ∈ outcomes.map some :=
      houtcomes ▸ List.mem_map_of_mem (List.mem_flatMap_of_mem hmapper hrequest)
    obtain ⟨outcome, _, houtcome⟩ := List.mem_map.mp hmem
    exact Option.isSome_of_eq_some houtcome.symm

end Manifest

end ObjectMapping
