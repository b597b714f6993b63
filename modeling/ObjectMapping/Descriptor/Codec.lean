import ObjectMapping.Descriptor.Basic
import ObjectMapping.Json.Decode
import ObjectMapping.Json.Outline

namespace ObjectMapping

def TypeRef.toJson (t : TypeRef) : Json :=
  .text t.text

namespace Property

def toJson (p : Property) : Json :=
  .object [("name", .text p.name), ("type", p.type.toJson), ("required", .bool p.required),
    ("mutable", .bool p.mutable)]

def ofJson : Json → Except Json.DecodeError Property :=
  Json.asRecord "struct PropertyDescriptor" <|
    Property.mk <$> Json.field "name" Json.asText
      <*> Json.field "type" Json.asType
      <*> Json.fieldD "required" true Json.asBool
      <*> Json.fieldD "mutable" false Json.asBool

def outline : Json.Outline :=
  .ofFields ofJson
    [("name", .ofValue Json.asText), ("type", .ofValue Json.asType),
      ("required", .ofValue Json.asBool), ("mutable", .ofValue Json.asBool)]

end Property

namespace Signature

def toJson (s : Signature) : Json :=
  .array (s.types.map TypeRef.toJson)

def ofJson (j : Json) : Except Json.DecodeError Signature :=
  .mk <$> j.asList Json.asType

end Signature

namespace Constructor

def toJson (c : Constructor) : Json :=
  .object [("parameters", .array (c.parameters.map Property.toJson))]

def ofJson : Json → Except Json.DecodeError Constructor :=
  Json.asRecord "struct ConstructorDescriptor" <|
    Constructor.mk <$> Json.field "parameters" (Json.asList Property.ofJson)

def outline : Json.Outline :=
  .ofFields ofJson [("parameters", .ofItems Property.ofJson Property.outline)]

end Constructor

namespace TypeDescriptor

def toJson (d : TypeDescriptor) : Json :=
  .object [("name", .text d.name), ("properties", .array (d.properties.map Property.toJson)),
    ("constructors", .array (d.constructors.map Constructor.toJson))]

def ofJson : Json → Except Json.DecodeError TypeDescriptor :=
  Json.asRecord "struct TypeDescriptor" <|
    TypeDescriptor.mk <$> Json.field "name" Json.asText
      <*> Json.fieldD "properties" [] (Json.asList Property.ofJson)
      <*> Json.fieldD "constructors" [] (Json.asList Constructor.ofJson)

def outline : Json.Outline :=
  .ofFields ofJson
    [("name", .ofValue Json.asText), ("properties", .ofItems Property.ofJson Property.outline),
      ("constructors", .ofItems Constructor.ofJson Constructor.outline)]

end TypeDescriptor

end ObjectMapping
