import ObjectMapping.Descriptor.Codec
import ObjectMapping.Override.Codec

namespace ObjectMapping

/-- A mapping asked for: the names of the two types, overrides, and the constructor if it is to be
a certain one. -/
structure MappingRequest where
  source : String
  target : String
  overrides : List OverrideDecl := []
  constructor : Option Signature := none
deriving DecidableEq, Repr

namespace MappingRequest

def toJson (r : MappingRequest) : Json :=
  .object ([("source", .text r.source), ("target", .text r.target)] ++
    (if r.overrides.isEmpty then []
      else [("overrides", .array (r.overrides.map OverrideDecl.toJson))]) ++
    r.constructor.toList.map fun s => ("constructor", s.toJson))

def ofJson : Json → Except Json.DecodeError MappingRequest :=
  Json.asRecord "struct MappingRequest" <|
    MappingRequest.mk <$> Json.field "source" Json.asText
      <*> Json.field "target" Json.asText
      <*> Json.fieldD "overrides" [] (Json.asList OverrideDecl.ofJson)
      <*> Json.fieldD "constructor" none (Json.asOption Signature.ofJson)

def outline : Json.Outline :=
  .ofFields ofJson
    [("source", .ofValue Json.asText), ("target", .ofValue Json.asText),
      ("overrides", .ofItems OverrideDecl.ofJson OverrideDecl.outline),
      ("constructor",
        .list (Json.decodes (Json.asOption Signature.ofJson)) (.ofValue Json.asType))]

end MappingRequest

end ObjectMapping
