import ObjectMapping.Json.Decode
import ObjectMapping.Json.Outline
import ObjectMapping.Override.Basic

namespace ObjectMapping

namespace OverrideKind

def toJson : OverrideKind → Json
  | source name => .object [("kind", .text "source"), ("value", .text name)]
  | constant value => .object [("kind", .text "constant"), ("value", .text value)]
  | expression text => .object [("kind", .text "expression"), ("value", .text text)]
  | ignore => .object [("kind", .text "ignore")]

def variants : List (String × Option (String → OverrideKind)) :=
  [("source", some source), ("constant", some constant), ("expression", some expression),
    ("ignore", none)]

def ofJson : Json → Except Json.DecodeError OverrideKind :=
  Json.asTagAndContent "adjacently tagged enum OverrideKind" "kind" "value" variants fun make? r =>
    match make? with
    | some make => make <$> r.require "value" Json.asText
    | none => do
      let asContent := Json.asNull "unit variant OverrideKind::Ignore"
      if r.fromArray then r.require "value" asContent else r.getD "value" () asContent
      return .ignore

end OverrideKind

namespace Override

def toJson (o : Override) : Json :=
  .object [("target", .text o.target), ("kind", o.kind.toJson)]

def ofJson : Json → Except Json.DecodeError Override :=
  Json.asRecord "struct MappingOverride" <|
    Override.mk <$> Json.field "target" Json.asText
      <*> Json.field "kind" OverrideKind.ofJson

end Override

namespace OverrideDecl

def toJson (d : OverrideDecl) : Json :=
  .object [("target", .text d.target), ("source", Json.ofOption .text d.source),
    ("constant", Json.ofOption .text d.constant), ("expression", Json.ofOption .text d.expression),
    ("ignore", .bool d.ignore)]

def ofJson : Json → Except Json.DecodeError OverrideDecl :=
  Json.asRecord "struct OverrideDecl" <|
    OverrideDecl.mk <$> Json.fieldD "target" "" Json.asText
      <*> Json.fieldD "source" none (Json.asOption Json.asText)
      <*> Json.fieldD "constant" none (Json.asOption Json.asText)
      <*> Json.fieldD "expression" none (Json.asOption Json.asText)
      <*> Json.fieldD "ignore" false Json.asBool

def outline : Json.Outline :=
  .ofFields ofJson
    [("target", .ofValue Json.asText), ("source", .ofValue (Json.asOption Json.asText)),
      ("constant", .ofValue (Json.asOption Json.asText)),
      ("expression", .ofValue (Json.asOption Json.asText)), ("ignore", .ofValue Json.asBool)]

end OverrideDecl

end ObjectMapping
