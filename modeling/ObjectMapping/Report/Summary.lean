import ObjectMapping.Report.Document

namespace ObjectMapping

def summaryColumn : Nat := 16

namespace PropertyPlan

def sourceText (source : String) (step : ConversionStep) : String :=
  source ++ (step.converter.elim "" fun c => " via " ++ c.name) ++
    if step.unwraps then " (unsafe unwrap)" else ""

def resolutionText (p : PropertyPlan) : String :=
  match p.resolution with
  | .matchedByName source step | .matchedByOverride source step => sourceText source step
  | .constant value => s!"= {value}"
  | .expression text => "= \x7b " ++ text ++ " \x7d"
  | .ignored => "ignored"
  | .unresolved _ reason => "unresolved: " ++ reason.text

def summary (p : PropertyPlan) : String :=
  match p.phase with
  | .constructor => p.resolutionText
  | .postConstruction => p.resolutionText ++ " [after construction]"

end PropertyPlan

def propertyLine (name description : String) : String :=
  "    " ++ Text.padRight summaryColumn name ++ " " ++ description ++ "\n"

def MappingResult.summary (m : MappingResult) : String :=
  s!"  {m.sourceType} -> {m.targetType} {m.constructor}\n" ++
    String.join (m.properties.map fun p => propertyLine p.target p.summary) ++
    String.join (m.unresolved.map fun u => propertyLine u.name ("unresolved: " ++ u.reason.text))

namespace PlanUnit

def qualifiedName (u : PlanUnit) : String :=
  if u.outputNamespace.isEmpty then u.name else u.outputNamespace ++ "." ++ u.name

def summary (u : PlanUnit) : String :=
  u.qualifiedName ++ "\n" ++ String.join (u.results.map MappingResult.summary)

def summaryText (units : List PlanUnit) : String :=
  "\n".intercalate (units.map summary)

end PlanUnit

end ObjectMapping
