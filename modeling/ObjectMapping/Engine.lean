import ObjectMapping.Catalog
import ObjectMapping.Config.Basic
import ObjectMapping.Construction
import ObjectMapping.Planning
import ObjectMapping.Request

namespace ObjectMapping

namespace Resolver

def planSlots (r : Resolver) (source target : TypeDescriptor) (overrides : OverrideSet) :
    Except (List MappingError) (List PropertyPlan) :=
  (Matching.matchSlots source target overrides).map r.planAll

/-- The plans for the slots of the target under the declared overrides, or all that is wrong with
these: first the conflicts, then the slots whose override reads a property that does not exist. -/
def planDeclared (r : Resolver) (source target : TypeDescriptor) (decls : List OverrideDecl) :
    Except (List MappingError) (List PropertyPlan) :=
  -- the slots are checked as well if declarations conflict, by the overrides left
  let p := OverrideSet.partition decls
  let conflicts := p.conflicts.map MappingError.conflictingOverride
  match r.planSlots source target p.overrides with
  | .ok plans => if conflicts.isEmpty then .ok plans else .error conflicts
  | .error errors => .error (conflicts ++ errors)

def selectFor (r : Resolver) (source target : TypeDescriptor) (request : MappingRequest) :
    Except (List MappingError) Selection :=
  match r.planDeclared source target request.overrides with
  | .ok plans => (Construction.select plans target request.constructor).mapError ([·])
  | .error errors => .error errors

def resolvePair (r : Resolver) (source target : TypeDescriptor) (request : MappingRequest) :
    Except MappingFailure MappingResult :=
  match r.selectFor source target request with
  | .ok s =>
    .ok {
      sourceType := source.name
      targetType := target.name
      constructor := s.signature
      constructorIndex := s.index
      properties := s.properties
      unresolved := s.unresolved }
  | .error errors => .error { sourceType := source.name, targetType := target.name, errors }

def warningsOfPair (r : Resolver) (source target : TypeDescriptor) (request : MappingRequest) :
    List Warning :=
  let p := OverrideSet.partition request.overrides
  p.warnings ++ Matching.warnings target p.overrides ++
    match r.selectFor source target request with
    | .ok s => s.warnings target.name
    | .error _ => []

end Resolver

inductive TypeRole where
  | source
  | target
deriving DecidableEq, Repr

def TypeRole.text : TypeRole → String
  | source => "source"
  | target => "target"

structure WorkerFault where
  text : String
  causes : List String
deriving DecidableEq, Repr

/-- Starts the given number of workers, or tells what keeps them from it. -/
abbrev Workers := Nat → Except WorkerFault Unit

/-- As many workers as are asked for. Plans do not depend on who makes them, so that nothing needs
to be started. -/
def Workers.unlimited : Workers :=
  fun _ => .ok ()

inductive GenerationError where
  | typeNotFound (name : String) (role : TypeRole)
  | workers (fault : WorkerFault)
deriving DecidableEq, Repr

namespace GenerationError

def message : GenerationError → String
  | typeNotFound name role => s!"{role.text} type '{name}' not found"
  | workers fault => s!"failed to build worker pool: {fault.text}"

def causes : GenerationError → List String
  | typeNotFound _ _ => []
  -- the message quotes the fault, and the fault is told once more behind it
  | workers fault => fault.text :: fault.causes

end GenerationError

structure Engine where
  resolver : Resolver
  catalog : Catalog
  maxParallelJobs : Option Nat

namespace Engine

def describe (e : Engine) (role : TypeRole) (name : String) :
    Except GenerationError TypeDescriptor :=
  match e.catalog.describe? name with
  | some d => .ok d
  | none => .error (.typeNotFound name role)

def describePair (e : Engine) (request : MappingRequest) :
    Except GenerationError (TypeDescriptor × TypeDescriptor) := do
  return (← e.describe .source request.source, ← e.describe .target request.target)

def startWorkers (e : Engine) (workers : Workers) : Except GenerationError Unit :=
  match e.maxParallelJobs with
  | some jobs => (workers (min jobs Config.maxJobsLimit)).mapError .workers
  -- without a limit there is nothing to start
  | none => .ok ()

/-- Plans every mapping asked for, in order. All types must exist and the workers be started before
any mapping is planned. -/
def resolveAll (e : Engine) (workers : Workers) (requests : List MappingRequest) :
    Except GenerationError (List (Except MappingFailure MappingResult)) := do
  let pairs ← requests.mapM e.describePair
  e.startWorkers workers
  return (requests.zip pairs).map fun (request, source, target) =>
    e.resolver.resolvePair source target request

end Engine

end ObjectMapping
