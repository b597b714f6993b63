import ObjectMapping.Config.OptionValue
import ObjectMapping.Warning

namespace ObjectMapping

structure Config where
  -- whether a value that may be null is taken to be there where the target needs one
  enforceNotNull : Bool := false
  -- what is put behind the name of a mapper to name its unit
  filenameSuffix : String := "Konverter"
  -- the built-in converters to leave out, by name
  disabledConverters : List String := []
  -- how many mappings may be worked on at once
  maxParallelJobs : Option Nat := none
deriving DecidableEq, Repr

inductive ConfigOption where
  | enforceNotNull
  | filenameSuffix
  | disabledConverters
  | maxParallelJobs
deriving DecidableEq, Repr

def ConfigOption.ofKey? (key : String) : Option ConfigOption :=
  [("enforceNotNull", enforceNotNull), ("generatedFilenameSuffix", filenameSuffix),
    ("disabledConverters", disabledConverters), ("maxParallelJobs", maxParallelJobs)].lookup key

namespace Config

def maxJobsLimit : Nat := 256

def jobsOf (value : OptionValue) : Except String Nat :=
  match value.asInteger? with
  | none => .error "expected an integer"
  | some 0 => .error "must be positive"
  | some jobs => if jobs ≤ maxJobsLimit then .ok jobs else .error s!"must be at most {maxJobsLimit}"

/-- The names in a list with commas, without blanks around them and without empty names. -/
def namesOf (list : String) : List String :=
  let names := (list.toList.splitOn ',').map fun name => Text.trim (String.ofList name)
  names.filter (!·.isEmpty)

def applyKnown (c : Config) (option : ConfigOption) (value : OptionValue) : Except String Config :=
  match option with
  | .enforceNotNull =>
    match value.asBool? with
    | some flag => .ok { c with enforceNotNull := flag }
    | none => .error "expected a boolean"
  | .filenameSuffix => .ok { c with filenameSuffix := value.asText }
  | .disabledConverters => .ok { c with disabledConverters := namesOf value.asText }
  | .maxParallelJobs => (jobsOf value).map fun jobs => { c with maxParallelJobs := some jobs }

def applyOption (c : Config) (key : String) (value : OptionValue) : Except ConfigError Config :=
  match ConfigOption.ofKey? key with
  | some option => (c.applyKnown option value).mapError (.invalidOption key)
  -- an unknown key is worth a warning and no more
  | none => .ok c

/-- Applies the option that a key names to a configuration in place. Nothing is written before the
value is tested. -/
def setOption (key : String) (value : OptionValue) : EStateM ConfigError Config Unit :=
  match ConfigOption.ofKey? key with
  | some .enforceNotNull =>
    match value.asBool? with
    | some flag => modify fun c => { c with enforceNotNull := flag }
    | none => throw (.invalidOption key "expected a boolean")
  | some .filenameSuffix => modify fun c => { c with filenameSuffix := value.asText }
  | some .disabledConverters =>
    modify fun c => { c with disabledConverters := namesOf value.asText }
  | some .maxParallelJobs =>
    match jobsOf value with
    | .ok jobs => modify fun c => { c with maxParallelJobs := some jobs }
    | .error reason => throw (.invalidOption key reason)
  | none => pure ()

def warningsOfKey (key : String) : List Warning :=
  if (ConfigOption.ofKey? key).isSome then [] else [.unknownOption key]

def applyOptions (c : Config) (options : List (String × OptionValue)) : Except ConfigError Config :=
  options.foldlM (fun c o => c.applyOption o.1 o.2) c

def ofOptions (options : List (String × OptionValue)) : Except ConfigError Config :=
  applyOptions {} options

def applyAssignment (c : Config) (assignment : String) : Except ConfigError Config := do
  let (key, value) ← OptionValue.parseAssignment assignment
  c.applyOption key value

def enables (c : Config) (name : String) : Bool :=
  !c.disabledConverters.contains name

end Config

end ObjectMapping
