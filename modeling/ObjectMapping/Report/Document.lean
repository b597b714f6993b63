import ObjectMapping.Config.Basic
import ObjectMapping.Json.Writer
import ObjectMapping.Plan.Codec

namespace ObjectMapping

structure PlanUnit where
  name : String
  outputNamespace : String
  results : List MappingResult
deriving DecidableEq, Repr

def Config.unitName (c : Config) (mapper : String) : String :=
  mapper ++ c.filenameSuffix

def PropertyPlan.toDocument (p : PropertyPlan) : Json :=
  .object (p.toMembers ++ if p.unwraps then [("unsafe_unwrap", .bool true)] else [])

def MappingResult.toDocument (m : MappingResult) : Json :=
  .object ([("source_type", .text m.sourceType), ("target_type", .text m.targetType),
      ("constructor", m.constructor.toJson), ("constructor_index", .integer m.constructorIndex),
      ("unsafe_unwrap", .bool m.unwraps),
      ("properties", .array (m.properties.map PropertyPlan.toDocument))] ++
    if m.unresolved.isEmpty then []
    else [("unresolved", .array (m.unresolved.map UnresolvedProperty.toJson))])

namespace PlanUnit

def toDocument (u : PlanUnit) : Json :=
  .object [("unit", .text u.name), ("namespace", .text u.outputNamespace),
    ("mappings", .array (u.results.map MappingResult.toDocument))]

def documentText (units : List PlanUnit) : String :=
  (Json.array (units.map toDocument)).sortKeys.indented ++ "\n"

end PlanUnit

end ObjectMapping
