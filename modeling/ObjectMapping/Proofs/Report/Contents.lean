import ObjectMapping.Proofs.Json.Reading
import ObjectMapping.Report.Summary

namespace ObjectMapping

/-! ### Lines -/

namespace Text

def unlines (lines : List String) : String :=
  String.join (lines.map (· ++ "\n"))

theorem unlines_cons (line : String) (lines : List String) :
    unlines (line :: lines) = line ++ "\n" ++ unlines lines :=
  String.join_cons

theorem unlines_append (lines lines' : List String) :
    unlines (lines ++ lines') = unlines lines ++ unlines lines' := by
  rw [unlines, List.map_append, String.join_append]
  rfl

theorem unlines_flatMap {α : Type} (parts : List α) (lines : α → List String) :
    unlines (parts.flatMap lines) = String.join (parts.map fun a => unlines (lines a)) := by
  induction parts with
  | nil => rfl
  | cons part rest ih =>
    rw [List.flatMap_cons, unlines_append, ih, List.map_cons, String.join_cons]

/-- Texts joined by line breaks have an empty line between them. -/
theorem unlines_intercalate (parts : List (List String)) :
    unlines ([""].intercalate parts) = "\n".intercalate (parts.map unlines) := by
  induction parts with
  | nil => rfl
  | cons part rest ih =>
    cases rest with
    | nil => rw [List.intercalate_singleton, List.map_singleton, String.intercalate_singleton]
    | cons next rest =>
      have hempty : unlines [""] = "\n" := rfl
      rw [List.intercalate_cons_cons, unlines_append, unlines_append, ih, hempty]
      exact String.intercalate_cons_cons.symm

end Text

/-! ### Summaries -/

def entryLine (name description : String) : String :=
  "    " ++ Text.padRight 16 name ++ " " ++ description

def MappingResult.headLine (m : MappingResult) : String :=
  "  " ++ m.sourceType ++ " -> " ++ m.targetType ++ " " ++ m.constructor.text

def MappingResult.lines (m : MappingResult) : List String :=
  m.headLine ::
    (m.properties.map (fun p => entryLine p.target p.summary) ++
      m.unresolved.map fun u => entryLine u.name ("unresolved: " ++ u.reason.text))

def PlanUnit.lines (u : PlanUnit) : List String :=
  u.qualifiedName :: u.results.flatMap MappingResult.lines

theorem unlines_map_entryLine {α : Type} (entries : List α) (name description : α → String) :
    Text.unlines (entries.map fun a => entryLine (name a) (description a)) =
      String.join (entries.map fun a => propertyLine (name a) (description a)) := by
  rw [Text.unlines, List.map_map]
  rfl

/-- The summary of a mapping consists of its lines. -/
theorem MappingResult.summary_eq (m : MappingResult) : m.summary = Text.unlines m.lines := by
  rw [lines, Text.unlines_cons, Text.unlines_append, unlines_map_entryLine, unlines_map_entryLine,
    ← String.append_assoc]
  rfl

theorem PlanUnit.summary_eq (u : PlanUnit) : u.summary = Text.unlines u.lines := by
  rw [lines, Text.unlines_cons, Text.unlines_flatMap]
  simp only [← MappingResult.summary_eq]
  rfl

/-- The summary of several units consists of their lines, unit by unit, with an empty line between
two of them. -/
theorem PlanUnit.summaryText_eq (units : List PlanUnit) :
    summaryText units = Text.unlines ([""].intercalate (units.map lines)) := by
  rw [Text.unlines_intercalate, List.map_map, summaryText]
  congr 2
  funext u
  exact u.summary_eq

/-! ### Documents -/

theorem Json.sortKeysOfItems_eq_map (items : List Json) :
    sortKeysOfItems items = items.map sortKeys := by
  induction items with
  | nil => rfl
  | cons item rest ih => rw [sortKeysOfItems, ih, List.map_cons]

/-- The text of several units reads as the array of their documents, unit by unit. -/
theorem PlanUnit.read_documentText {units : List PlanUnit}
    (h : (Json.array (units.map toDocument)).sortKeys.fits Json.Reader.maxDepth = true) :
    Json.read .anything (documentText units) =
      .ok (.array (units.map fun u => u.toDocument.sortKeys)) := by
  have hsorted : (Json.array (units.map toDocument)).sortKeys =
      .array (units.map fun u => u.toDocument.sortKeys) := by
    rw [Json.sortKeys, Json.sortKeysOfItems_eq_map, List.map_map]
    rfl
  rw [documentText, Json.read_indented h, hsorted]

end ObjectMapping
