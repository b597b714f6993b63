import ObjectMapping.Catalog
import ObjectMapping.Config.Basic
import ObjectMapping.Converter.Registry
import ObjectMapping.Json.Reader
import ObjectMapping.Request
import ObjectMapping.SortedTable

namespace ObjectMapping

structure Mapper where
  name : String
  outputNamespace : String := ""
  mappings : List MappingRequest := []
deriving DecidableEq, Repr

def Mapper.ofJson : Json → Except Json.DecodeError Mapper :=
  Json.asRecord "struct MapperDecl" <|
    Mapper.mk <$> Json.field "name" Json.asText
      <*> Json.fieldD "namespace" "" Json.asText
      <*> Json.fieldD "mappings" [] (Json.asList MappingRequest.ofJson)

def Mapper.outline : Json.Outline :=
  .ofFields ofJson
    [("name", .ofValue Json.asText), ("namespace", .ofValue Json.asText),
      ("mappings", .ofItems MappingRequest.ofJson MappingRequest.outline)]

structure Manifest where
  options : SortedTable OptionValue := {}
  types : Catalog := {}
  converters : List ConverterDecl := []
  mappers : List Mapper := []

namespace Manifest

/-- Decodes options by key. Of several values of one key the last counts. -/
def optionsOfJson : Json → Except Json.DecodeError (SortedTable OptionValue)
  | .object members =>
    members.foldlM (fun t m => do return t.insert m.1 (← OptionValue.ofJson m.2)) {}
  | j => j.reject "a map"

def ofJson : Json → Except Json.DecodeError Manifest :=
  Json.asRecord "struct Manifest" <|
    Manifest.mk <$> Json.fieldD "options" {} optionsOfJson
      <*> Json.fieldD "types" (.ofList []) Catalog.ofJson
      <*> Json.fieldD "converters" [] (Json.asList ConverterDecl.ofJson)
      <*> Json.fieldD "mappers" [] (Json.asList Mapper.ofJson)

def outline : Json.Outline :=
  .ofFields ofJson
    [("options", .table (Json.decodes optionsOfJson) (.whole (Json.decodes OptionValue.ofJson))),
      ("types", Catalog.outline),
      ("converters", .ofItems ConverterDecl.ofJson ConverterDecl.outline),
      ("mappers", .ofItems Mapper.ofJson Mapper.outline)]

def read (text : String) : Except Json.Fault Manifest := do
  (ofJson (← Json.read outline text)).mapError .invalid

/-- The configuration by the options in order of their keys and then the assignments. -/
def config (m : Manifest) (assignments : List String) : Except ConfigError Config := do
  let c ← Config.ofOptions m.options.entries
  assignments.foldlM Config.applyAssignment c

def configWarnings (m : Manifest) (assignments : List String) : List Warning :=
  let assigned := assignments.filterMap fun a => (OptionValue.parseAssignment a).toOption.map (·.1)
  (m.options.keys ++ assigned).flatMap Config.warningsOfKey

structure InvalidConverter where
  name : String
  error : TypeRef.ReadError
deriving DecidableEq, Repr

def InvalidConverter.chain (e : InvalidConverter) : List String :=
  [s!"Invalid converter '{e.name}'", e.error.message]

/-- The built-in converters that are not disabled, and then those declared. -/
def registry (m : Manifest) (c : Config) : Except InvalidConverter Registry := do
  let declared ← m.converters.mapM fun d => d.toConverter.mapError fun e => ⟨d.name, e⟩
  return ⟨(Registry.standard.filterNames c.enables).converters ++ declared⟩

def requests (m : Manifest) : List MappingRequest :=
  m.mappers.flatMap (·.mappings)

end Manifest

end ObjectMapping
