import ObjectMapping.Generation
import ObjectMapping.Proofs.Success

namespace ObjectMapping

namespace Catalog

/-- A name that a request asks for in vain. The source is looked for first. -/
inductive Lacks (c : Catalog) (request : MappingRequest) : String → TypeRole → Prop where
  | source (hsource : c.describe? request.source = none) :
      c.Lacks request request.source .source
  | target (hsource : (c.describe? request.source).isSome)
      (htarget : c.describe? request.target = none) : c.Lacks request request.target .target

/-- The first name that the requests ask for in vain. -/
def FirstMissing (c : Catalog) (requests : List MappingRequest) (name : String)
    (role : TypeRole) : Prop :=
  ∃ before request after, requests = before ++ request :: after ∧ c.Lacks request name role ∧
    ∀ earlier ∈ before,
      (c.describe? earlier.source).isSome ∧ (c.describe? earlier.target).isSome

def Serves (c : Catalog) (requests : List MappingRequest) : Prop :=
  ∀ request ∈ requests, (c.describe? request.source).isSome ∧ (c.describe? request.target).isSome

/-- The requests are served exactly if no name is missing. -/
theorem not_serves_iff {c : Catalog} {requests : List MappingRequest} :
    ¬c.Serves requests ↔ ∃ request ∈ requests,
      c.describe? request.source = none ∨ c.describe? request.target = none := by
  simp only [Serves, not_forall, exists_prop, not_and_or, Option.not_isSome_iff_eq_none]

end Catalog

namespace Workers

/-- As many workers as a limit allows for can be started, if there is a limit. -/
def Suffice (workers : Workers) (limit : Option Nat) : Prop :=
  ∀ jobs ∈ limit, workers (min jobs 256) = .ok ()

def Lack (workers : Workers) (limit : Option Nat) (fault : WorkerFault) : Prop :=
  ∃ jobs ∈ limit, workers (min jobs 256) = .error fault

end Workers

namespace MappingOutcome

def result? : MappingOutcome → Option MappingResult
  | .ok result => some result
  | .error _ => none

def failure? : MappingOutcome → Option MappingFailure
  | .ok _ => none
  | .error failure => some failure

end MappingOutcome

namespace Engine

variable {e : Engine} {workers : Workers} {request : MappingRequest}
  {requests : List MappingRequest} {outcomes : List MappingOutcome}

def outcome? (e : Engine) (request : MappingRequest) : Option MappingOutcome := do
  let source ← e.catalog.describe? request.source
  let target ← e.catalog.describe? request.target
  return e.resolver.resolvePair source target request

def result? (e : Engine) (request : MappingRequest) : Option MappingResult :=
  (e.outcome? request).bind MappingOutcome.result?

def failure? (e : Engine) (request : MappingRequest) : Option MappingFailure :=
  (e.outcome? request).bind MappingOutcome.failure?

theorem describe_eq_ok_iff {role : TypeRole} {name : String} {d : TypeDescriptor} :
    e.describe role name = .ok d ↔ e.catalog.describe? name = some d := by
  unfold describe
  cases e.catalog.describe? name <;> simp

theorem describe_eq_error_iff {role : TypeRole} {name : String} {error : GenerationError} :
    e.describe role name = .error error ↔
      e.catalog.describe? name = none ∧ error = .typeNotFound name role := by
  unfold describe
  cases e.catalog.describe? name <;> simp [eq_comm]

theorem describePair_eq_ok_iff {source target : TypeDescriptor} :
    e.describePair request = .ok (source, target) ↔
      e.catalog.describe? request.source = some source ∧
        e.catalog.describe? request.target = some target := by
  simp only [describePair, bind_eq_ok_iff, describe_eq_ok_iff, pure, Except.pure,
    Except.ok.injEq, Prod.mk.injEq]
  constructor
  · rintro ⟨s, hs, t, ht, rfl, rfl⟩
    exact ⟨hs, ht⟩
  · rintro ⟨hs, ht⟩
    exact ⟨source, hs, target, ht, rfl, rfl⟩

/-- A pair of types fails by the name that its request asks for in vain. -/
theorem describePair_eq_error_iff {error : GenerationError} :
    e.describePair request = .error error ↔
      ∃ name role, e.catalog.Lacks request name role ∧ error = .typeNotFound name role := by
  simp only [describePair, bind_eq_error_iff, describe_eq_ok_iff, describe_eq_error_iff]
  -- the target is looked for only once the source is there
  constructor
  · rintro (⟨hsource, rfl⟩ | ⟨source, hsource, ⟨htarget, rfl⟩ | ⟨target, _, ⟨⟩⟩⟩)
    · exact ⟨_, _, .source hsource, rfl⟩
    · exact ⟨_, _, .target (Option.isSome_of_eq_some hsource) htarget, rfl⟩
  · rintro ⟨name, role, hlacks, rfl⟩
    cases hlacks with
    | source hsource => exact .inl ⟨hsource, rfl⟩
    | target hsource htarget =>
      obtain ⟨source, hsource⟩ := Option.isSome_iff_exists.mp hsource
      exact .inr ⟨source, hsource, .inl ⟨htarget, rfl⟩⟩

/-- A request has an outcome if both of its types are known. -/
theorem outcome?_eq_some_iff {outcome : MappingOutcome} :
    e.outcome? request = some outcome ↔
      ∃ source target, e.describePair request = .ok (source, target) ∧
        outcome = e.resolver.resolvePair source target request := by
  simp only [outcome?, describePair_eq_ok_iff, Option.bind_eq_bind, Option.bind_eq_some_iff,
    Option.pure_def, Option.some.injEq]
  constructor
  · rintro ⟨source, hsource, target, htarget, rfl⟩
    exact ⟨source, target, ⟨hsource, htarget⟩, rfl⟩
  · rintro ⟨source, target, ⟨hsource, htarget⟩, rfl⟩
    exact ⟨source, hsource, target, htarget, rfl⟩

theorem startWorkers_eq_ok_iff :
    e.startWorkers workers = .ok () ↔ workers.Suffice e.maxParallelJobs := by
  rw [startWorkers, Workers.Suffice]
  cases e.maxParallelJobs with
  | none => simp
  | some jobs => simp [mapError_eq_ok_iff, Config.maxJobsLimit]

theorem startWorkers_eq_error_iff {error : GenerationError} :
    e.startWorkers workers = .error error ↔
      ∃ fault, workers.Lack e.maxParallelJobs fault ∧ error = .workers fault := by
  simp only [startWorkers, Workers.Lack]
  cases e.maxParallelJobs with
  | none => simp
  | some jobs =>
    cases h : workers (min jobs 256) <;> simp [Config.maxJobsLimit, h, Except.mapError, eq_comm]

theorem exists_describePair_iff :
    (∃ pair, e.describePair request = .ok pair) ↔
      (e.catalog.describe? request.source).isSome ∧
        (e.catalog.describe? request.target).isSome := by
  simp only [Prod.exists, describePair_eq_ok_iff, Option.isSome_iff_exists, exists_and_left,
    exists_and_right]

/-- All pairs of types fail by the first name that is asked for in vain. -/
theorem mapM_describePair_eq_error_iff {error : GenerationError} :
    requests.mapM e.describePair = .error error ↔
      ∃ name role, e.catalog.FirstMissing requests name role ∧
        error = .typeNotFound name role := by
  simp only [mapM_eq_error_iff, describePair_eq_error_iff, exists_describePair_iff,
    Catalog.FirstMissing]
  constructor
  · rintro ⟨before, request, after, hrequests, ⟨name, role, hlacks, rfl⟩, hbefore⟩
    exact ⟨name, role, ⟨before, request, after, hrequests, hlacks, hbefore⟩, rfl⟩
  · rintro ⟨name, role, ⟨before, request, after, hrequests, hlacks, hbefore⟩, rfl⟩
    exact ⟨before, request, after, hrequests, ⟨name, role, hlacks, rfl⟩, hbefore⟩

theorem exists_mapM_describePair_iff :
    (∃ pairs, requests.mapM e.describePair = .ok pairs) ↔ e.catalog.Serves requests := by
  simp only [exists_mapM_eq_ok_iff, exists_describePair_iff, Catalog.Serves]

/-- The workers are started only once all types are there. -/
theorem resolveAll_eq_error_iff {error : GenerationError} :
    e.resolveAll workers requests = .error error ↔
      (∃ name role, e.catalog.FirstMissing requests name role ∧
        error = .typeNotFound name role) ∨
      e.catalog.Serves requests ∧
        ∃ fault, workers.Lack e.maxParallelJobs fault ∧ error = .workers fault := by
  rw [resolveAll, bind_eq_error_iff, mapM_describePair_eq_error_iff]
  simp only [bind_eq_error_iff, startWorkers_eq_error_iff, ← exists_mapM_describePair_iff]
  apply or_congr_right
  constructor
  · rintro ⟨pairs, hpairs, hstart | ⟨_, _, ⟨⟩⟩⟩
    exact ⟨⟨pairs, hpairs⟩, hstart⟩
  · rintro ⟨⟨pairs, hpairs⟩, hstart⟩
    exact ⟨pairs, hpairs, .inl hstart⟩

/-- A type is told to be missing exactly if it is the first that is. -/
theorem resolveAll_eq_typeNotFound_iff {name : String} {role : TypeRole} :
    e.resolveAll workers requests = .error (.typeNotFound name role) ↔
      e.catalog.FirstMissing requests name role := by
  rw [resolveAll_eq_error_iff]
  constructor
  · rintro (⟨_, _, hmissing, heq⟩ | ⟨_, _, _, heq⟩) <;> cases heq
    exact hmissing
  · intro hmissing
    exact .inl ⟨name, role, hmissing, rfl⟩

/-- What keeps the workers from being started is told only if no type is missing. -/
theorem resolveAll_eq_workers_iff {fault : WorkerFault} :
    e.resolveAll workers requests = .error (.workers fault) ↔
      e.catalog.Serves requests ∧ workers.Lack e.maxParallelJobs fault := by
  rw [resolveAll_eq_error_iff]
  constructor
  · rintro (⟨_, _, _, heq⟩ | ⟨hserves, _, hlack, heq⟩) <;> cases heq
    exact ⟨hserves, hlack⟩
  · rintro ⟨hserves, hlack⟩
    exact .inr ⟨hserves, fault, hlack, rfl⟩

/-- If nothing is in the way, every request has its outcome in its place. -/
theorem map_outcome?_of_resolveAll (h : e.resolveAll workers requests = .ok outcomes) :
    requests.map e.outcome? = outcomes.map some := by
  obtain ⟨pairs, hpairs, hplanned⟩ := bind_eq_ok_iff.mp h
  obtain ⟨_, _, houtcomes⟩ := bind_eq_ok_iff.mp hplanned
  cases houtcomes
  -- the request and its two types stand in the same place of their lists
  have hdescribed := mapM_eq_ok_iff.mp hpairs
  clear h hpairs hplanned
  induction hdescribed with
  | nil => rfl
  | cons hpair _ ih =>
    simp only [List.zip_cons_cons, List.map_cons, ih, List.cons.injEq, and_true]
    exact outcome?_eq_some_iff.mpr ⟨_, _, hpair, rfl⟩

/-- Nothing stands in the way exactly if all types are there and the workers can be started. -/
theorem exists_ok_iff :
    (∃ outcomes, e.resolveAll workers requests = .ok outcomes) ↔
      e.catalog.Serves requests ∧ workers.Suffice e.maxParallelJobs := by
  rw [← exists_mapM_describePair_iff, ← startWorkers_eq_ok_iff]
  constructor
  · rintro ⟨outcomes, h⟩
    obtain ⟨pairs, hpairs, hplanned⟩ := bind_eq_ok_iff.mp h
    obtain ⟨_, hstart, _⟩ := bind_eq_ok_iff.mp hplanned
    exact ⟨⟨pairs, hpairs⟩, hstart⟩
  · rintro ⟨⟨pairs, hpairs⟩, hstart⟩
    exact ⟨_, bind_eq_ok_iff.mpr ⟨pairs, hpairs, bind_eq_ok_iff.mpr ⟨(), hstart, rfl⟩⟩⟩

/-- Where the workers can be started, nothing is planned exactly if some type is missing. -/
theorem exists_error_iff (hstart : workers.Suffice e.maxParallelJobs) :
    (∃ error, e.resolveAll workers requests = .error error) ↔
      ∃ request ∈ requests, e.catalog.describe? request.source = none ∨
        e.catalog.describe? request.target = none := by
  have hok : (∃ outcomes, e.resolveAll workers requests = .ok outcomes) ↔
      e.catalog.Serves requests := exists_ok_iff.trans (and_iff_left hstart)
  rw [← Catalog.not_serves_iff, ← hok]
  cases e.resolveAll workers requests <;> simp

end Engine

end ObjectMapping
