import ObjectMapping.Descriptor.Codec
import ObjectMapping.Plan.Resolution

namespace ObjectMapping

namespace NullHandling

def variants : List (String × NullHandling) :=
  [("none", none), ("widen", widen), ("propagate", propagate), ("unsafe_unwrap", unsafeUnwrap)]

def toJson : NullHandling → Json
  | none => .text "none"
  | widen => .text "widen"
  | propagate => .text "propagate"
  | unsafeUnwrap => .text "unsafe_unwrap"

end NullHandling

namespace ConverterRef

def toJson (c : ConverterRef) : Json :=
  .object [("index", .integer c.index), ("name", .text c.name),
    ("priority", .integer c.priority.toNat)]

def ofJson : Json → Except Json.DecodeError ConverterRef :=
  Json.asPart "struct ConverterRef" <|
    ConverterRef.mk <$> Json.field "index" Json.asSize
      <*> Json.field "name" Json.asText
      <*> Json.field "priority" Json.asWord

end ConverterRef

namespace ConversionStep

def ownMembers (source target : TypeRef) (nullHandling : NullHandling)
    (converter : Option ConverterRef) : List (String × Json) :=
  [("source", source.toJson), ("target", target.toJson), ("null_handling", nullHandling.toJson)] ++
    converter.toList.map fun c => ("converter", c.toJson)

mutual

def toJson : ConversionStep → Json
  | ⟨source, target, nullHandling, converter, elements⟩ =>
    .object (ownMembers source target nullHandling converter ++ elementsMember elements)

def elementsMember : List ConversionStep → List (String × Json)
  | [] => []
  | s :: rest => [("elements", .array (toJson s :: toJsonAll rest))]

def toJsonAll : List ConversionStep → List Json
  | [] => []
  | s :: rest => toJson s :: toJsonAll rest

end

def fields (elements : Except Json.DecodeError (List ConversionStep)) :
    Json.Fields ConversionStep :=
  ConversionStep.mk <$> Json.field "source" Json.asType
    <*> Json.field "target" Json.asType
    <*> Json.field "null_handling" (Json.asVariantInPart NullHandling.variants)
    <*> Json.fieldD "converter" none (Json.asOption ConverterRef.ofJson)
    <*> Json.fieldD "elements" [] fun _ => elements

mutual

def ofJson : Json → Except Json.DecodeError ConversionStep
  | .object members =>
    (Json.object members).asPart "struct ConversionStep" (fields (elementsOfMembers members))
  | .array items =>
    (Json.array items).asPart "struct ConversionStep" (fields (elementsOfItems items))
  | j => j.reject "struct ConversionStep"

def elementsOfMembers : List (String × Json) → Except Json.DecodeError (List ConversionStep)
  | [] => .ok []
  -- repeated keys are refused with the other fields, so that the first one may be taken
  | (key, value) :: rest => if key = "elements" then ofJsonList value else elementsOfMembers rest

/-- The elements among the fields given as an array, where they stand last. -/
def elementsOfItems : List Json → Except Json.DecodeError (List ConversionStep)
  | _ :: _ :: _ :: _ :: value :: _ => ofJsonList value
  | _ => .ok []

def ofJsonList : Json → Except Json.DecodeError (List ConversionStep)
  | .array items => ofJsonAll items
  | j => j.reject "a sequence"

def ofJsonAll : List Json → Except Json.DecodeError (List ConversionStep)
  | [] => .ok []
  | j :: rest => do return (← ofJson j) :: (← ofJsonAll rest)

end

end ConversionStep

namespace UnresolvedReason

def toJson : UnresolvedReason → Json
  | unmatched => .object [("reason", .text "unmatched")]
  | noConverter source target =>
    .object [("reason", .text "no_converter"), ("from", source.toJson), ("to", target.toJson)]
  | ambiguousConverter source target candidates =>
    .object [("reason", .text "ambiguous_converter"), ("from", source.toJson),
      ("to", target.toJson), ("candidates", .array (candidates.map .text))]
  | nullabilityMismatch source target =>
    .object [("reason", .text "nullability_mismatch"), ("from", source.toJson),
      ("to", target.toJson)]

def typeFields {α : Type} (make : TypeRef → TypeRef → α) : Json.Fields α :=
  make <$> Json.field "from" Json.asType <*> Json.field "to" Json.asType

def variants : List (String × (Json → Except Json.DecodeError UnresolvedReason)) :=
  [("unmatched", fun j => do
      j.asNothing
      return unmatched),
    ("no_converter",
      Json.asPart "struct variant UnresolvedReason::NoConverter" (typeFields noConverter)),
    ("ambiguous_converter",
      Json.asPart "struct variant UnresolvedReason::AmbiguousConverter" <|
        typeFields ambiguousConverter <*> Json.field "candidates" (Json.asList Json.asText)),
    ("nullability_mismatch",
      Json.asPart "struct variant UnresolvedReason::NullabilityMismatch"
        (typeFields nullabilityMismatch))]

def ofJson (j : Json) : Except Json.DecodeError UnresolvedReason := do
  let (decode, rest) ←
    j.asTagged "internally tagged enum UnresolvedReason" "reason" (Json.asVariantName variants)
  decode rest

def ofPart (j : Json) : Except Json.DecodeError UnresolvedReason := do
  let (decode, rest) ←
    j.asTagged "internally tagged enum UnresolvedReason" "reason"
      (Json.asVariantNameInPart variants)
  decode rest

end UnresolvedReason

namespace Resolution

def toJson : Resolution → Json
  | matchedByName source step =>
    .object [("kind", .text "matched_by_name"), ("source", .text source), ("step", step.toJson)]
  | matchedByOverride source step =>
    .object [("kind", .text "matched_by_override"), ("source", .text source), ("step", step.toJson)]
  | constant value => .object [("kind", .text "constant"), ("value", .text value)]
  | expression text => .object [("kind", .text "expression"), ("text", .text text)]
  | ignored => .object [("kind", .text "ignored")]
  | unresolved source reason =>
    .object ([("kind", .text "unresolved")] ++ source.toList.map (fun s => ("source", .text s)) ++
      [("reason", reason.toJson)])

def matchFields (make : String → ConversionStep → Resolution) : Json.Fields Resolution :=
  make <$> Json.field "source" Json.asText <*> Json.field "step" ConversionStep.ofJson

def variants : List (String × (Json → Except Json.DecodeError Resolution)) :=
  [("matched_by_name",
      Json.asPart "struct variant Resolution::MatchedByName" (matchFields matchedByName)),
    ("matched_by_override",
      Json.asPart "struct variant Resolution::MatchedByOverride" (matchFields matchedByOverride)),
    ("constant",
      Json.asPart "struct variant Resolution::Constant" <|
        constant <$> Json.field "value" Json.asText),
    ("expression",
      Json.asPart "struct variant Resolution::Expression" <|
        expression <$> Json.field "text" Json.asText),
    ("ignored", fun j => do
      j.asNothing
      return ignored),
    ("unresolved",
      Json.asPart "struct variant Resolution::Unresolved" <|
        unresolved <$> Json.fieldD "source" none (Json.asOption Json.asText)
          <*> Json.field "reason" UnresolvedReason.ofPart)]

def ofJson (j : Json) : Except Json.DecodeError Resolution := do
  let (decode, rest) ←
    j.asTagged "internally tagged enum Resolution" "kind" (Json.asVariantName variants)
  decode rest

end Resolution

namespace AssignmentPhase

def variants : List (String × AssignmentPhase) :=
  [("constructor", constructor), ("post_construction", postConstruction)]

def toJson : AssignmentPhase → Json
  | constructor => .text "constructor"
  | postConstruction => .text "post_construction"

end AssignmentPhase

namespace PropertyPlan

def toMembers (p : PropertyPlan) : List (String × Json) :=
  [("target", .text p.target), ("target_type", p.targetType.toJson),
    ("resolution", p.resolution.toJson), ("phase", p.phase.toJson)]

def toJson (p : PropertyPlan) : Json :=
  .object p.toMembers

def ofJson : Json → Except Json.DecodeError PropertyPlan :=
  Json.asRecord "struct PropertyMappingPlan" <|
    PropertyPlan.mk <$> Json.field "target" Json.asText
      <*> Json.field "target_type" Json.asType
      <*> Json.field "resolution" Resolution.ofJson
      <*> Json.field "phase" (Json.asVariant AssignmentPhase.variants)

end PropertyPlan

namespace UnresolvedProperty

def toJson (u : UnresolvedProperty) : Json :=
  .object [("name", .text u.name), ("type", u.type.toJson), ("reason", u.reason.toJson)]

def ofJson : Json → Except Json.DecodeError UnresolvedProperty :=
  Json.asRecord "struct UnresolvedProperty" <|
    UnresolvedProperty.mk <$> Json.field "name" Json.asText
      <*> Json.field "type" Json.asType
      <*> Json.field "reason" UnresolvedReason.ofJson

end UnresolvedProperty

namespace MappingResult

def toJson (m : MappingResult) : Json :=
  .object [("source_type", .text m.sourceType), ("target_type", .text m.targetType),
    ("constructor", m.constructor.toJson), ("constructor_index", .integer m.constructorIndex),
    ("properties", .array (m.properties.map PropertyPlan.toJson)),
    ("unresolved", .array (m.unresolved.map UnresolvedProperty.toJson))]

def ofJson : Json → Except Json.DecodeError MappingResult :=
  Json.asRecord "struct MappingResult" <|
    MappingResult.mk <$> Json.field "source_type" Json.asText
      <*> Json.field "target_type" Json.asText
      <*> Json.field "constructor" Signature.ofJson
      <*> Json.field "constructor_index" Json.asSize
      <*> Json.field "properties" (Json.asList PropertyPlan.ofJson)
      <*> Json.field "unresolved" (Json.asList UnresolvedProperty.ofJson)

end MappingResult

end ObjectMapping
