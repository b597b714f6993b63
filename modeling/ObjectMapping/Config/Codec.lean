import ObjectMapping.Config.Basic

namespace ObjectMapping.Config

def toJson (c : Config) : Json :=
  .object [("enforceNotNull", .bool c.enforceNotNull),
    ("generatedFilenameSuffix", .text c.filenameSuffix),
    ("disabledConverters", .array (c.disabledConverters.map .text)),
    ("maxParallelJobs", Json.ofOption (fun n : Nat => .integer n) c.maxParallelJobs)]

def ofJson : Json → Except Json.DecodeError Config :=
  let initial : Config := {}
  Json.asRecord "struct Config" <|
    mk <$> Json.fieldD "enforceNotNull" initial.enforceNotNull Json.asBool
      <*> Json.fieldD "generatedFilenameSuffix" initial.filenameSuffix Json.asText
      <*> Json.fieldD "disabledConverters" initial.disabledConverters (Json.asList Json.asText)
      <*> Json.fieldD "maxParallelJobs" initial.maxParallelJobs (Json.asOption Json.asSize)

end ObjectMapping.Config
