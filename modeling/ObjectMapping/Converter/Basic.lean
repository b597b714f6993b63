import ObjectMapping.Plan.Step
import ObjectMapping.TypeRef.Pattern
import ObjectMapping.TypeRef.WellKnown

/-!
Converters: rules that take values of one type to values of another. Of two converters the one with
the smaller priority goes first. The types that a converter is asked about do not allow null at
their outermost level.
-/

namespace ObjectMapping

/-- Finds the conversion of the elements of a container. -/
abbrev ElementResolver := TypeRef → TypeRef → Option ConversionStep

inductive BuiltIn where
  | numberToNumber
  | textToNumber
  | textToBoolean
  | iterableToIterable
  | mapToMap
  | anyToText
  | anyToAny
deriving DecidableEq, Repr

namespace BuiltIn

def structuralPriority : UInt32 := 3000

def fallbackPriority : UInt32 := 5000

def all : List BuiltIn :=
  [numberToNumber, textToNumber, textToBoolean, iterableToIterable, mapToMap, anyToText, anyToAny]

def name : BuiltIn → String
  | numberToNumber => "NumberToNumber"
  | textToNumber => "StringToNumber"
  | textToBoolean => "StringToBoolean"
  | iterableToIterable => "IterableToIterable"
  | mapToMap => "MapToMap"
  | anyToText => "ToString"
  | anyToAny => "ToAny"

def priority : BuiltIn → UInt32
  | anyToText | anyToAny => fallbackPriority
  | _ => structuralPriority

/-- The conversions of the elements if the converter accepts the two types, and nothing if it does
not. Only converters between containers have elements. -/
def accepts (resolve : ElementResolver) (rule : BuiltIn) (source target : TypeRef) :
    Option (List ConversionStep) :=
  match rule with
  | numberToNumber =>
    if source.isNumeric && target.isNumeric && source.simpleName != target.simpleName then some []
    else none
  | textToNumber => if source.isPlain "String" && target.isNumeric then some [] else none
  | textToBoolean => if source.isPlain "String" && target.isPlain "Boolean" then some [] else none
  | iterableToIterable =>
    if source.isIterable && target.isIterable then
      match source.arguments, target.arguments with
      | [a], [b] => do return [← resolve a b]
      | _, _ => none
    else none
  | mapToMap =>
    if source.isMap && target.isMap then
      match source.arguments, target.arguments with
      | [k, v], [k', v'] => do return [← resolve k k', ← resolve v v']
      | _, _ => none
    else none
  | anyToText => if target.isPlain "String" && !source.isPlain "String" then some [] else none
  | anyToAny => if target.isPlain "Any" && !source.isPlain "Any" then some [] else none

end BuiltIn

inductive Converter where
  | builtIn (rule : BuiltIn)
  -- takes any type that fits the one pattern to any type that fits the other
  | pattern (name : String) (source target : TypePattern) (priority : UInt32)
deriving Repr

namespace Converter

def name : Converter → String
  | builtIn rule => rule.name
  | pattern name _ _ _ => name

def priority : Converter → UInt32
  | builtIn rule => rule.priority
  | pattern _ _ _ priority => priority

/-- The conversions of the elements if the converter accepts the two types, and nothing if it does
not. -/
def accepts (resolve : ElementResolver) (c : Converter) (source target : TypeRef) :
    Option (List ConversionStep) :=
  match c with
  | builtIn rule => rule.accepts resolve source target
  | pattern _ source' target' _ =>
    if source'.fits source && target'.fits target then some [] else none

def ref (c : Converter) (index : Nat) : ConverterRef where
  index := index
  name := c.name
  priority := c.priority

end Converter

end ObjectMapping
