import Mathlib.Data.List.Forall2
import ObjectMapping.Proofs.Conversion.StepTree
import ObjectMapping.Proofs.Report.Contents

/-!
Marks for values that are taken to be there although their types allow null. A property is marked
in the document of its unit exactly if the document shows a step of that kind in its resolution,
however deep, and the descriptions of the same properties say so.
-/

namespace ObjectMapping

namespace Json

/-- `Occurs part j`: the value stands in the document, inside any number of arrays and objects. -/
inductive Occurs : Json → Json → Prop where
  | here (j : Json) : Occurs j j
  | item {part item : Json} {items : List Json} (hitem : item ∈ items) (h : Occurs part item) :
      Occurs part (.array items)
  | member {part : Json} {m : String × Json} {members : List (String × Json)} (hm : m ∈ members)
      (h : Occurs part m.2) : Occurs part (.object members)

def IsUnwrap (j : Json) : Prop :=
  j.member? "null_handling" = some (.text "unsafe_unwrap")

def HasUnwrap (j : Json) : Prop :=
  ∃ part, Occurs part j ∧ IsUnwrap part

def IsMarked (j : Json) : Prop :=
  j.member? "unsafe_unwrap" = some (.bool true)

/-! ### What stands in a document -/

@[simp]
theorem not_hasUnwrap_text (s : String) : ¬HasUnwrap (.text s) := by
  rintro ⟨_, ⟨⟩, hunwrap⟩
  cases hunwrap

@[simp]
theorem not_hasUnwrap_integer (n : Int) : ¬HasUnwrap (.integer n) := by
  rintro ⟨_, ⟨⟩, hunwrap⟩
  cases hunwrap

@[simp]
theorem hasUnwrap_array_iff {items : List Json} :
    HasUnwrap (.array items) ↔ ∃ item ∈ items, HasUnwrap item := by
  constructor
  · rintro ⟨part, hpart, hunwrap⟩
    cases hpart with
    | here => cases hunwrap
    | item hitem h => exact ⟨_, hitem, part, h, hunwrap⟩
  · rintro ⟨item, hitem, part, h, hunwrap⟩
    exact ⟨part, .item hitem h, hunwrap⟩

/-- An object is an unwrap itself, or has one in a value. -/
theorem hasUnwrap_object_iff {members : List (String × Json)} :
    HasUnwrap (.object members) ↔
      IsUnwrap (.object members) ∨ ∃ m ∈ members, HasUnwrap m.2 := by
  constructor
  · rintro ⟨part, hpart, hunwrap⟩
    cases hpart with
    | here => exact .inl hunwrap
    | member hm h => exact .inr ⟨_, hm, part, h, hunwrap⟩
  · rintro (hunwrap | ⟨m, hm, part, h, hunwrap⟩)
    · exact ⟨_, .here _, hunwrap⟩
    · exact ⟨part, .member hm h, hunwrap⟩

/-- An object without the key of null handling is no step. -/
theorem hasUnwrap_object_iff_of_notMem {members : List (String × Json)}
    (h : "null_handling" ∉ members.map (·.1)) :
    HasUnwrap (.object members) ↔ ∃ m ∈ members, HasUnwrap m.2 := by
  rw [hasUnwrap_object_iff, or_iff_right]
  intro hunwrap
  obtain ⟨m, hm, -⟩ := Option.map_eq_some_iff.mp hunwrap
  have hkey := List.find?_some hm
  have hmem := List.mem_reverse.mp (List.mem_of_find?_eq_some hm)
  exact h (List.mem_map.mpr ⟨m, hmem, beq_iff_eq.mp hkey⟩)

end Json

open Json

theorem NullHandling.toJson_eq_unsafeUnwrap_iff (n : NullHandling) :
    n.toJson = .text "unsafe_unwrap" ↔ n = .unsafeUnwrap := by
  cases n <;> simp [toJson]

theorem ConverterRef.not_hasUnwrap (c : ConverterRef) : ¬HasUnwrap c.toJson := by
  rw [toJson, hasUnwrap_object_iff_of_notMem (by simp)]
  simp

theorem NullHandling.not_hasUnwrap (n : NullHandling) : ¬HasUnwrap n.toJson := by
  cases n <;> simp [toJson]

namespace ConversionStep

/-- A step shows its own null handling. -/
theorem isUnwrap_toJson_iff (s : ConversionStep) :
    IsUnwrap s.toJson ↔ s.nullHandling = .unsafeUnwrap := by
  obtain ⟨source, target, nullHandling, converter, elements⟩ := s
  rw [← NullHandling.toJson_eq_unsafeUnwrap_iff, IsUnwrap, toJson]
  cases converter <;> cases elements <;> simp [ownMembers, elementsMember, member?]

/-- Inside a step only its elements can unwrap. -/
theorem hasUnwrap_toJson_iff_root_or_element (s : ConversionStep) :
    HasUnwrap s.toJson ↔
      s.nullHandling = .unsafeUnwrap ∨ ∃ j ∈ toJsonAll s.elements, HasUnwrap j := by
  rw [← isUnwrap_toJson_iff]
  obtain ⟨source, target, nullHandling, converter, elements⟩ := s
  rw [toJson, hasUnwrap_object_iff]
  apply or_congr_right
  cases converter <;> cases elements <;>
    simp [ownMembers, elementsMember, TypeRef.toJson, toJsonAll, ConverterRef.not_hasUnwrap,
      NullHandling.not_hasUnwrap]

mutual

/-- The document of a step shows an unwrap exactly if the step unwraps, at any level. -/
theorem hasUnwrap_toJson_iff : (s : ConversionStep) → (HasUnwrap s.toJson ↔ s.unwraps = true)
  | ⟨_, _, _, _, elements⟩ => by
    rw [hasUnwrap_toJson_iff_root_or_element, unwraps_iff_root_or_element, ← anyUnwraps_iff,
      exists_hasUnwrap_toJsonAll_iff elements]

theorem exists_hasUnwrap_toJsonAll_iff : (steps : List ConversionStep) →
    ((∃ j ∈ toJsonAll steps, HasUnwrap j) ↔ anyUnwraps steps = true)
  | [] => by simp [toJsonAll, anyUnwraps]
  | s :: rest => by
    rw [toJsonAll, List.exists_mem_cons_iff, anyUnwraps, Bool.or_eq_true, hasUnwrap_toJson_iff s,
      exists_hasUnwrap_toJsonAll_iff rest]

end

end ConversionStep

/-- No reason for a missing value tells of an unwrap. -/
theorem UnresolvedReason.not_hasUnwrap (r : UnresolvedReason) : ¬HasUnwrap r.toJson := by
  cases r <;> rw [toJson, hasUnwrap_object_iff_of_notMem (by simp)] <;> simp [TypeRef.toJson]

namespace PropertyPlan

/-- The document of a resolution shows an unwrap exactly if the conversion of the source unwraps. -/
theorem hasUnwrap_resolution_iff (p : PropertyPlan) :
    HasUnwrap p.resolution.toJson ↔ p.unwraps = true := by
  rw [unwraps, step?]
  cases p.resolution with
  | matchedByName source step | matchedByOverride source step =>
    rw [Resolution.toJson, hasUnwrap_object_iff_of_notMem (by simp)]
    simp [ConversionStep.hasUnwrap_toJson_iff]
  | constant | expression | ignored =>
    rw [Resolution.toJson, hasUnwrap_object_iff_of_notMem (by simp)]
    simp
  | unresolved source reason =>
    cases source <;> rw [Resolution.toJson, hasUnwrap_object_iff_of_notMem (by simp)] <;>
      simp [UnresolvedReason.not_hasUnwrap]

/-- The document of a property is marked exactly if the conversion of the source unwraps. -/
theorem isMarked_toDocument_iff (p : PropertyPlan) : IsMarked p.toDocument ↔ p.unwraps = true := by
  rw [IsMarked, toDocument]
  cases p.unwraps <;> simp [toMembers, member?]

def label (p : PropertyPlan) : String :=
  match p.resolution with
  | .matchedByName source step | .matchedByOverride source step =>
    source ++ step.converter.elim "" fun c => " via " ++ c.name
  | .constant value => "= " ++ value
  | .expression code => "= \x7b " ++ code ++ " \x7d"
  | .ignored => "ignored"
  | .unresolved _ reason => "unresolved: " ++ reason.text

def timing (p : PropertyPlan) : String :=
  match p.phase with
  | .constructor => ""
  | .postConstruction => " [after construction]"

/-- The mark stands between what a property is populated with and when. -/
theorem summary_eq (p : PropertyPlan) :
    p.summary = p.label ++ (if p.unwraps then " (unsafe unwrap)" else "") ++ p.timing := by
  have htext : p.resolutionText = p.label ++ if p.unwraps then " (unsafe unwrap)" else "" := by
    rw [resolutionText, label, unwraps, step?]
    cases p.resolution <;> simp [sourceText, toString]
  rw [summary, timing, htext]
  cases p.phase with
  | constructor => rw [String.append_empty]
  | postConstruction => rfl

/-- A document and a line of a property that show whether a value is taken to be there. -/
structure Shows (p : PropertyPlan) (doc : Json) (line : String) : Prop where
  -- the mark stands exactly where the resolution has a step of that kind, at any level
  marked_iff : ∃ resolution, doc.member? "resolution" = some resolution ∧
    (doc.IsMarked ↔ resolution.HasUnwrap)
  absent : ¬doc.IsMarked → doc.member? "unsafe_unwrap" = none
  line_eq : line = "    " ++ Text.padRight 16 p.target ++ " " ++ p.summary
  summary_marked : doc.IsMarked → p.summary = p.label ++ " (unsafe unwrap)" ++ p.timing
  summary_plain : ¬doc.IsMarked → p.summary = p.label ++ p.timing

theorem shows_toDocument (p : PropertyPlan) :
    p.Shows p.toDocument (entryLine p.target p.summary) where
  marked_iff := by
    refine ⟨p.resolution.toJson, ?_, ?_⟩
    · rw [toDocument]
      cases p.unwraps <;> rfl
    · rw [isMarked_toDocument_iff, hasUnwrap_resolution_iff]
  absent h := by
    rw [isMarked_toDocument_iff, Bool.not_eq_true] at h
    rw [toDocument, h]
    rfl
  line_eq := rfl
  summary_marked h := by
    rw [isMarked_toDocument_iff] at h
    rw [summary_eq, h]
    rfl
  summary_plain h := by
    rw [isMarked_toDocument_iff, Bool.not_eq_true] at h
    rw [summary_eq, h, if_neg Bool.false_ne_true, String.append_empty]

end PropertyPlan

namespace MappingResult

/-- A document and the lines of a mapping that show all properties in order. The document also says
whether one of them is marked, and behind their lines are those of the properties left out. -/
def Shows (m : MappingResult) (doc : Json) (lines : List String) : Prop :=
  ∃ (entries : List (Json × String)) (marked : Bool),
    doc.member? "properties" = some (.array (entries.map (·.1))) ∧
    lines = m.headLine :: (entries.map (·.2) ++
      m.unresolved.map fun u => entryLine u.name ("unresolved: " ++ u.reason.text)) ∧
    List.Forall₂ (fun p e => p.Shows e.1 e.2) m.properties entries ∧
    doc.member? "unsafe_unwrap" = some (.bool marked) ∧
    (marked = true ↔ ∃ e ∈ entries, e.1.IsMarked)

theorem shows_toDocument (m : MappingResult) : m.Shows m.toDocument m.lines := by
  refine ⟨m.properties.map fun p => (p.toDocument, entryLine p.target p.summary), m.unwraps,
    ?_, ?_, ?_, ?_, ?_⟩
  · rw [toDocument, List.map_map]
    split <;> rfl
  · rw [lines, List.map_map]
    rfl
  · rw [List.forall₂_map_right_iff, List.forall₂_same]
    exact fun p _ => p.shows_toDocument
  · rw [toDocument]
    split <;> rfl
  · simp [unwraps, PropertyPlan.isMarked_toDocument_iff]

end MappingResult

/-- Wherever a value is taken to be there although its type allows null, the document of the unit
and the line of the property in its summary show it, and nowhere else. -/
theorem PlanUnit.shows_unwraps (u : PlanUnit) :
    ∃ entries : List (Json × List String),
      u.toDocument.member? "mappings" = some (.array (entries.map (·.1))) ∧
      u.summary = Text.unlines (u.qualifiedName :: entries.flatMap (·.2)) ∧
      List.Forall₂ (fun m e => MappingResult.Shows m e.1 e.2) u.results entries := by
  refine ⟨u.results.map fun m => (m.toDocument, m.lines), ?_, ?_, ?_⟩
  · rw [List.map_map]
    rfl
  · rw [u.summary_eq, lines, List.flatMap_map]
  · rw [List.forall₂_map_right_iff, List.forall₂_same]
    exact fun m _ => m.shows_toDocument

namespace Sample

def rowsPlan : PropertyPlan :=
  let number : TypeRef := { name := "Int" }
  let listOf (element : TypeRef) : TypeRef := { name := "List", arguments := [element] }
  let convertLists (element : ConversionStep) : ConversionStep :=
    { source := listOf element.source
      target := listOf element.target
      nullHandling := .none
      converter := some ⟨3, "IterableToIterable", 3000⟩
      elements := [element] }
  let unwrap : ConversionStep := .direct number.toNullable number .unsafeUnwrap
  { target := "rows"
    targetType := listOf (listOf number)
    resolution := .matchedByName "cells" (convertLists (convertLists unwrap)) }

example : rowsPlan.summary = "cells via IterableToIterable (unsafe unwrap)" := by decide +kernel

end Sample

end ObjectMapping
