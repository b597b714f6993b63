import ObjectMapping.Engine
import ObjectMapping.Manifest
import ObjectMapping.Report.Document

namespace ObjectMapping

structure Generation where
  -- one unit for each mapper, in order
  units : List PlanUnit
  -- the mappings that could not be planned, in order
  failures : List MappingFailure

inductive Generation.Error where
  | config (error : ConfigError)
  | converter (error : Manifest.InvalidConverter)
  | generation (error : GenerationError)
deriving DecidableEq, Repr

def Generation.Error.chain : Generation.Error → List String
  | .config error => [error.message]
  | .converter error => error.chain
  | .generation error => error.message :: error.causes

abbrev MappingOutcome := Except MappingFailure MappingResult

namespace MappingOutcome

def results (outcomes : List MappingOutcome) : List MappingResult :=
  outcomes.filterMap fun
    | .ok result => some result
    | .error _ => none

def failures (outcomes : List MappingOutcome) : List MappingFailure :=
  outcomes.filterMap fun
    | .ok _ => none
    | .error failure => some failure

end MappingOutcome

namespace Mapper

/-- Gives the mappers their plans. The outcomes are those of the mappings of all mappers in
order. -/
def distribute : List Mapper → List MappingOutcome → List (Mapper × List MappingResult)
  | [], _ => []
  | m :: rest, outcomes =>
    (m, MappingOutcome.results (outcomes.take m.mappings.length)) ::
      distribute rest (outcomes.drop m.mappings.length)

end Mapper

namespace Manifest

def engine (m : Manifest) (c : Config) : Except InvalidConverter Engine := do
  let registry ← m.registry c
  return {
    resolver := { registry, enforceNotNull := c.enforceNotNull }
    catalog := m.types
    maxParallelJobs := c.maxParallelJobs }

def generate (m : Manifest) (workers : Workers) (assignments : List String) :
    Except Generation.Error Generation := do
  let c ← (m.config assignments).mapError .config
  let e ← (m.engine c).mapError .converter
  let outcomes ← (e.resolveAll workers m.requests).mapError .generation
  -- failures are left out only after the outcomes are counted off by mapper
  let units := (Mapper.distribute m.mappers outcomes).map fun (mapper, results) =>
    { name := c.unitName mapper.name, outputNamespace := mapper.outputNamespace, results }
  return { units, failures := MappingOutcome.failures outcomes }

end Manifest

end ObjectMapping
