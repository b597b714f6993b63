import ObjectMapping.CommandLine.Arguments
import ObjectMapping.CommandLine.Files
import ObjectMapping.Generation
import ObjectMapping.Report.Summary

namespace ObjectMapping.CommandLine

/-- How a run ends. -/
structure Ending where
  stdout : String := ""
  -- the report on the mappings that failed
  failures : String := ""
  -- the error that the run ends in, with what it comes from behind it
  chain : List String := []
deriving DecidableEq, Repr

namespace Ending

def rejectedCode : Nat := 2

def exitCode (e : Ending) : Nat :=
  if e.chain.isEmpty then 0 else 1

def ofError (chain : List String) : Ending :=
  { chain }

end Ending

def failureLines (f : MappingFailure) : String :=
  s!"  {f.sourceType} -> {f.targetType}\n" ++
    String.join (f.errors.map fun e => "    - " ++ e.message ++ "\n")

def failureReport (failures : List MappingFailure) : String :=
  if failures.isEmpty then ""
  else s!"\nFailed mappings ({failures.length}):\n" ++ String.join (failures.map failureLines)

/-- The end of a run that has written its plans. -/
def endingOf (stdout : String) (failures : List MappingFailure) : Ending where
  stdout := stdout
  failures := failureReport failures
  chain :=
    if failures.isEmpty then [] else [s!"{failures.length} mapping(s) could not be resolved"]

def render (format : PlanFormat) (units : List PlanUnit) : String :=
  match format with
  | .json => PlanUnit.documentText units
  | .summary => PlanUnit.summaryText units

def converterRow (index name priority : String) : String :=
  Text.padRight 4 index ++ " " ++ Text.padRight 24 name ++ " " ++ priority ++ "\n"

/-- The table of converters, in the order in which they are registered. -/
def converterTable (r : Registry) : String :=
  converterRow "#" "NAME" "PRIORITY" ++
    String.join (r.refs.map fun c =>
      converterRow (toString c.index) c.name (toString c.priority))

def versionText (program : String) : String :=
  program ++ " 0.1.0\n"

def helpText : String :=
  "Usage: mapgen plan [MANIFEST] | mapgen converters\n"

section

variable {m : Type → Type} [Monad m] (files : FileAccess m) (workers : Workers)

def loadManifest (path : String) : m (Except (List String) Manifest) := do
  match ← files.read path with
  | .error fault => return .error [s!"Failed to read manifest {path}", fault.message]
  | .ok text =>
    match Manifest.read text with
    | .error error => return .error [s!"Invalid manifest {path}", error.message]
    | .ok manifest => return .ok manifest

def runPlan (path : String) (assignments : List String) (format : PlanFormat)
    (output : Option String) : m Ending := do
  match ← loadManifest files path with
  | .error chain => return .ofError chain
  | .ok manifest =>
    match manifest.generate workers assignments with
    | .error error => return .ofError error.chain
    | .ok generation =>
      let content := render format generation.units
      match output with
      | none => return endingOf content generation.failures
      | some target =>
        match ← files.write target content with
        | .error fault => return .ofError [fault.message]
        | .ok () => return endingOf "" generation.failures

def registryOf (manifest : Manifest) : Except Generation.Error Registry := do
  let c ← (manifest.config []).mapError .config
  (manifest.registry c).mapError .converter

def runConverters : Option String → m Ending
  | none => return { stdout := converterTable Registry.standard }
  | some path => do
    match ← loadManifest files path with
    | .error chain => return .ofError chain
    | .ok manifest =>
      match registryOf manifest with
      | .error error => return .ofError error.chain
      | .ok registry => return { stdout := converterTable registry }

def run : Invocation → m Ending
  | .plan path assignments format output => runPlan files workers path assignments format output
  | .converters path => runConverters files path
  | .version program => return { stdout := versionText program }
  | .help => return { stdout := helpText }

end

end ObjectMapping.CommandLine
