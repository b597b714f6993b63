import ObjectMapping.Descriptor.Basic
import ObjectMapping.Plan.Step

namespace ObjectMapping

inductive UnresolvedReason where
  -- the source has no property of the slot's name
  | unmatched
  -- no converter takes the source type to the target type
  | noConverter (source target : TypeRef)
  -- several converters share the best priority; they are named as they are registered
  | ambiguousConverter (source target : TypeRef) (candidates : List String)
  -- the source allows null and the target does not
  | nullabilityMismatch (source target : TypeRef)
deriving DecidableEq, Repr

namespace UnresolvedReason

def text : UnresolvedReason → String
  | unmatched => "no source property with a matching name"
  | noConverter source target => s!"no converter from {source} to {target}"
  | ambiguousConverter source target candidates =>
    s!"ambiguous converters from {source} to {target}: " ++ ", ".intercalate candidates
  | nullabilityMismatch source target =>
    s!"nullable {source} cannot be assigned to non-null {target}"

/-- Whether there was a value that could not be converted, and not just none. -/
def isConversionFailure : UnresolvedReason → Bool
  | unmatched => false
  | _ => true

end UnresolvedReason

inductive Resolution where
  -- the source property of the slot's name
  | matchedByName (source : String) (step : ConversionStep)
  -- a source property that an override names
  | matchedByOverride (source : String) (step : ConversionStep)
  -- a literal, taken as it is
  | constant (value : String)
  -- an expression, taken as it is
  | expression (text : String)
  -- nowhere, as an override asks
  | ignored
  -- Nowhere. The source property is given if there is one.
  | unresolved (source : Option String) (reason : UnresolvedReason)
deriving DecidableEq, Repr

inductive AssignmentPhase where
  | constructor
  | postConstruction
deriving DecidableEq, Repr

structure PropertyPlan where
  target : String
  targetType : TypeRef
  resolution : Resolution
  phase : AssignmentPhase := .constructor
deriving DecidableEq, Repr

namespace PropertyPlan

def key (p : PropertyPlan) : String × TypeRef :=
  (p.target, p.targetType)

def isResolved (p : PropertyPlan) : Bool :=
  match p.resolution with
  | .ignored | .unresolved _ _ => false
  | _ => true

def sourceProperty? (p : PropertyPlan) : Option String :=
  match p.resolution with
  | .matchedByName source _ | .matchedByOverride source _ => some source
  | .unresolved source _ => source
  | _ => none

def step? (p : PropertyPlan) : Option ConversionStep :=
  match p.resolution with
  | .matchedByName _ step | .matchedByOverride _ step => some step
  | _ => none

def converter? (p : PropertyPlan) : Option ConverterRef :=
  p.step? >>= (·.converter)

def reason? (p : PropertyPlan) : Option UnresolvedReason :=
  match p.resolution with
  | .unresolved _ reason => some reason
  | _ => none

def conversionFailure? (p : PropertyPlan) : Option UnresolvedReason :=
  p.reason?.filter (·.isConversionFailure)

def unwraps (p : PropertyPlan) : Bool :=
  p.step?.any (·.unwraps)

end PropertyPlan

structure UnresolvedProperty where
  name : String
  type : TypeRef
  reason : UnresolvedReason
deriving DecidableEq, Repr

def UnresolvedProperty.key (u : UnresolvedProperty) : String × TypeRef :=
  (u.name, u.type)

structure MappingResult where
  sourceType : String
  targetType : String
  constructor : Signature
  -- the place of the chosen constructor among those declared
  constructorIndex : Nat
  -- the arguments of the constructor in the order of its parameters, and the assignments after
  -- construction in the order of the properties
  properties : List PropertyPlan
  -- the slots for which there was a value that could not be converted
  unresolved : List UnresolvedProperty
deriving DecidableEq, Repr

namespace MappingResult

def arguments (r : MappingResult) : List PropertyPlan :=
  r.properties.filter (·.phase = .constructor)

def assignments (r : MappingResult) : List PropertyPlan :=
  r.properties.filter (·.phase = .postConstruction)

def property? (r : MappingResult) (target : String) : Option PropertyPlan :=
  r.properties.find? (·.target = target)

def isComplete (r : MappingResult) : Bool :=
  r.unresolved.isEmpty

def unwraps (r : MappingResult) : Bool :=
  r.properties.any (·.unwraps)

end MappingResult

end ObjectMapping
