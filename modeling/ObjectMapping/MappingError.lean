import ObjectMapping.Override.Basic
import ObjectMapping.Plan.Resolution

namespace ObjectMapping

inductive Blocker where
  -- an override asks for it to be left alone
  | ignored
  | unresolved (reason : UnresolvedReason)
deriving DecidableEq, Repr

def Blocker.text : Blocker → String
  | ignored => "ignored"
  | unresolved reason => reason.text

structure BlockedParameter where
  name : String
  type : TypeRef
  cause : Blocker
deriving DecidableEq, Repr

namespace BlockedParameter

def key (b : BlockedParameter) : String × TypeRef :=
  (b.name, b.type)

def text (b : BlockedParameter) : String :=
  s!"{b.name}: {b.type} ({b.cause.text})"

end BlockedParameter

inductive MappingError where
  -- an override reads a source property that does not exist
  | propertyNotFound (target sourceProperty : String) (available : List String)
  | conflictingOverride (conflict : Conflict)
  -- every constructor has parameters without a value
  | noMatchingConstructor (targetType : String) (blocking : List BlockedParameter)
  -- the constructor asked for has parameters without a value
  | constructorNotSatisfiable (signature : Signature) (unsatisfied : List BlockedParameter)
  -- no constructor has the signature asked for
  | unknownConstructor (signature : Signature) (available : List Signature)
deriving DecidableEq, Repr

namespace MappingError

def listed (texts : List String) : String :=
  "; ".intercalate texts

def message : MappingError → String
  | propertyNotFound target sourceProperty available =>
    s!"override for '{target}' names unknown source property '{sourceProperty}'; available: "
      ++ ", ".intercalate available
  | conflictingOverride conflict => conflict.message
  | noMatchingConstructor targetType blocking =>
    s!"no constructor of {targetType} can be satisfied; blocked by: "
      ++ listed (blocking.map (·.text))
  | constructorNotSatisfiable signature unsatisfied =>
    s!"constructor {signature} cannot be satisfied; unsatisfied: "
      ++ listed (unsatisfied.map (·.text))
  | unknownConstructor signature available =>
    s!"no constructor with signature {signature}; available: " ++ listed (available.map (·.text))

def isOverrideError : MappingError → Bool
  | propertyNotFound _ _ _ | conflictingOverride _ => true
  | _ => false

end MappingError

structure MappingFailure where
  sourceType : String
  targetType : String
  errors : List MappingError
deriving DecidableEq, Repr

def MappingFailure.message (f : MappingFailure) : String :=
  s!"cannot map {f.sourceType} to {f.targetType}: " ++
    MappingError.listed (f.errors.map (·.message))

end ObjectMapping
