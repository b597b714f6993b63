import ObjectMapping.Converter.Basic
import ObjectMapping.Json.Decode
import ObjectMapping.Json.Outline

namespace ObjectMapping

structure ConverterDecl where
  name : String
  source : String
  target : String
  priority : Option UInt32 := none
deriving DecidableEq, Repr

namespace ConverterDecl

def defaultPriority : UInt32 := 1000

def toConverter (d : ConverterDecl) : Except TypeRef.ReadError Converter := do
  let source ← TypePattern.read d.source
  let target ← TypePattern.read d.target
  return .pattern d.name source target (d.priority.getD defaultPriority)

def toJson (d : ConverterDecl) : Json :=
  .object [("name", .text d.name), ("source", .text d.source), ("target", .text d.target),
    ("priority", Json.ofOption (fun n => .integer n.toNat) d.priority)]

def ofJson : Json → Except Json.DecodeError ConverterDecl :=
  Json.asRecord "struct ConverterDecl" <|
    ConverterDecl.mk <$> Json.field "name" Json.asText
      <*> Json.field "source" Json.asText
      <*> Json.field "target" Json.asText
      <*> Json.fieldD "priority" none (Json.asOption Json.asWord)

def outline : Json.Outline :=
  .ofFields ofJson
    [("name", .ofValue Json.asText), ("source", .ofValue Json.asText),
      ("target", .ofValue Json.asText), ("priority", .ofValue (Json.asOption Json.asWord))]

end ConverterDecl

end ObjectMapping
