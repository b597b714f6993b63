import Mathlib.Data.List.Nodup
import ObjectMapping.Matching

namespace ObjectMapping

def OverrideKind.property? : OverrideKind → Option String
  | source name => some name
  | constant _ | expression _ | ignore => none

theorem OverrideKind.property?_eq_some_iff {kind : OverrideKind} {name : String} :
    kind.property? = some name ↔ kind = .source name := by
  cases kind <;> simp [property?]

theorem TypeDescriptor.property?_eq_none_iff {d : TypeDescriptor} {name : String} :
    d.property? name = none ↔ name ∉ d.propertyNames := by
  simp [property?, propertyNames, List.find?_eq_none]

namespace Matching

def errorOf {ε α : Type} : Except ε α → Option ε
  | .ok _ => none
  | .error e => some e

theorem ok_eq_error_iff {ε α : Type} {a : α} {errors : List ε} :
    Except.ok a = .error errors ↔ errors ≠ [] ∧ errors = [] := by
  constructor
  · intro h
    cases h
  · rintro ⟨hne, hnil⟩
    exact absurd hnil hne

theorem error_eq_error_iff {ε α : Type} {found errors : List ε} (hne : found ≠ []) :
    (Except.error found : Except _ α) = .error errors ↔ errors ≠ [] ∧ errors = found := by
  constructor
  · intro h
    cases h
    exact ⟨hne, rfl⟩
  · rintro ⟨_, rfl⟩
    rfl

/-- All errors are collected in order, if there are any. -/
theorem collect_eq_error_iff {ε α : Type} {results : List (Except ε α)} {errors : List ε} :
    collect results = .error errors ↔ errors ≠ [] ∧ errors = results.filterMap errorOf := by
  induction results generalizing errors with
  | nil => exact ok_eq_error_iff
  | cons first rest ih =>
    cases first with
    | ok a =>
      rw [List.filterMap_cons_none rfl, ← ih, collect]
      cases collect rest <;> simp
    | error e =>
      rw [List.filterMap_cons_some (f := errorOf) rfl, collect]
      cases hrest : collect rest with
      | ok values =>
        -- if there were errors further on, these would not have been collected as values
        have hnone : rest.filterMap errorOf = [] := by
          by_contra hne
          rw [ih.mpr ⟨hne, rfl⟩] at hrest
          cases hrest
        rw [hnone]
        exact error_eq_error_iff (List.cons_ne_nil e [])
      | error es =>
        rw [← (ih.mp hrest).2]
        exact error_eq_error_iff (List.cons_ne_nil e es)

def lacking? (source : TypeDescriptor) (overrides : OverrideSet) (name : String) : Option String :=
  ((overrides.find? name).bind OverrideKind.property?).filter (· ∉ source.propertyNames)

def lackingErrors (source target : TypeDescriptor) (overrides : OverrideSet) : List MappingError :=
  target.slots.filterMap fun slot =>
    (lacking? source overrides slot.name).map fun property =>
      .propertyNotFound slot.name property source.propertyNames

variable {source target : TypeDescriptor} {overrides : OverrideSet} {name property : String}
  {errors : List MappingError}

/-- A property is lacking if an override reads it and the source does not have it. -/
theorem lacking?_eq_some_iff :
    lacking? source overrides name = some property ↔
      overrides.find? name = some (.source property) ∧ property ∉ source.propertyNames := by
  simp only [lacking?, Option.filter_eq_some_iff, Option.bind_eq_some_iff,
    OverrideKind.property?_eq_some_iff, decide_eq_true_eq]
  constructor
  · rintro ⟨⟨_, hfind, rfl⟩, hlacks⟩
    exact ⟨hfind, hlacks⟩
  · rintro ⟨hfind, hlacks⟩
    exact ⟨⟨_, hfind, rfl⟩, hlacks⟩

/-- A slot cannot be matched exactly if its override reads what the source lacks. -/
theorem errorOf_matchSlot (source : TypeDescriptor) (overrides : OverrideSet) (slot : Slot) :
    errorOf (matchSlot source overrides slot) =
      (lacking? source overrides slot.name).map fun property =>
        .propertyNotFound slot.name property source.propertyNames := by
  rw [matchSlot, sourceOf, lacking?]
  cases overrides.find? slot.name with
  | none => cases source.property? slot.name <;> rfl
  | some kind =>
    rw [Option.bind_some]
    -- only an override that reads a property can fail
    cases kind with
    | source name =>
      cases hp : source.property? name with
      | none =>
        have hlacks := TypeDescriptor.property?_eq_none_iff.mp hp
        simp [errorOf, Except.map, OverrideKind.property?, Option.filter_some, hlacks, hp]
      | some p =>
        have hhas : name ∈ source.propertyNames := by
          by_contra hlacks
          rw [TypeDescriptor.property?_eq_none_iff.mpr hlacks] at hp
          cases hp
        simp [errorOf, Except.map, OverrideKind.property?, Option.filter_some, hhas, hp]
    | constant | expression | ignore => rfl

theorem matchSlots_eq_error_iff :
    matchSlots source target overrides = .error errors ↔
      errors ≠ [] ∧ errors = lackingErrors source target overrides := by
  rw [matchSlots, collect_eq_error_iff, List.filterMap_map]
  have hsame : (errorOf ∘ matchSlot source overrides) = fun slot =>
      (lacking? source overrides slot.name).map fun property =>
        .propertyNotFound slot.name property source.propertyNames :=
    funext (errorOf_matchSlot source overrides)
  rw [hsame, lackingErrors]

/-- The override for the name reads a property that the source lacks, and a slot of the target has
this name. -/
structure Misreads (source target : TypeDescriptor) (overrides : OverrideSet)
    (name property : String) : Prop where
  reads : overrides.find? name = some (.source property)
  lacks : property ∉ source.propertyNames
  slot : ∃ slot ∈ target.slots, slot.name = name

/-- The errors tell of all overrides that misread, and of nothing else. -/
theorem mem_lackingErrors {e : MappingError} :
    e ∈ lackingErrors source target overrides ↔
      ∃ name property, Misreads source target overrides name property ∧
        e = .propertyNotFound name property source.propertyNames := by
  rw [lackingErrors, List.mem_filterMap]
  constructor
  · rintro ⟨slot, hslot, herror⟩
    obtain ⟨property, hlacking, rfl⟩ := Option.map_eq_some_iff.mp herror
    obtain ⟨hreads, hlacks⟩ := lacking?_eq_some_iff.mp hlacking
    exact ⟨slot.name, property, ⟨hreads, hlacks, slot, hslot, rfl⟩, rfl⟩
  · rintro ⟨name, property, ⟨hreads, hlacks, slot, hslot, rfl⟩, rfl⟩
    have hlacking := lacking?_eq_some_iff.mpr ⟨hreads, hlacks⟩
    exact ⟨slot, hslot, Option.map_eq_some_iff.mpr ⟨property, hlacking, rfl⟩⟩

/-- Every slot of the name raises the error once more, whatever its type. -/
theorem count_lackingErrors (h : Misreads source target overrides name property) :
    (lackingErrors source target overrides).count
        (.propertyNotFound name property source.propertyNames) =
      target.slots.countP (·.name = name) := by
  rw [lackingErrors, List.count, List.countP_filterMap]
  apply List.countP_congr
  intro slot _
  have hlacking : lacking? source overrides name = some property :=
    lacking?_eq_some_iff.mpr ⟨h.reads, h.lacks⟩
  by_cases hname : slot.name = name
  · simp [hname, hlacking]
  · -- an error names the slot that it is raised for
    cases hslot : lacking? source overrides slot.name with
    | none => simp [hname]
    | some other => simp [hname]

/-- Matching fails exactly if some override for a slot reads a property that the source lacks. It
tells of such overrides only, and of each of them as often as slots have its name: exactly once if
no two slots share a name. -/
theorem matchSlots_reports (source target : TypeDescriptor) (overrides : OverrideSet) :
    ((∃ errors, matchSlots source target overrides = .error errors) ↔
      ∃ name property, Misreads source target overrides name property) ∧
    ∀ errors, matchSlots source target overrides = .error errors →
      (∀ e ∈ errors, ∃ name property, Misreads source target overrides name property ∧
        e = .propertyNotFound name property source.propertyNames) ∧
      (∀ name property, Misreads source target overrides name property →
        errors.count (.propertyNotFound name property source.propertyNames) =
          target.slots.countP (·.name = name)) ∧
      ((target.slots.map (·.name)).Nodup →
        ∀ name property, Misreads source target overrides name property →
          errors.count (.propertyNotFound name property source.propertyNames) = 1) := by
  constructor
  · constructor
    · rintro ⟨errors, h⟩
      obtain ⟨hne, rfl⟩ := matchSlots_eq_error_iff.mp h
      obtain ⟨e, he⟩ := List.exists_mem_of_ne_nil _ hne
      obtain ⟨name, property, hmisreads, _⟩ := mem_lackingErrors.mp he
      exact ⟨name, property, hmisreads⟩
    · rintro ⟨name, property, hmisreads⟩
      have hmem := mem_lackingErrors.mpr ⟨name, property, hmisreads, rfl⟩
      exact ⟨_, matchSlots_eq_error_iff.mpr ⟨List.ne_nil_of_mem hmem, rfl⟩⟩
  · intro errors h
    obtain ⟨_, rfl⟩ := matchSlots_eq_error_iff.mp h
    refine ⟨fun e he => mem_lackingErrors.mp he, fun _ _ => count_lackingErrors, ?_⟩
    intro hnames name property hmisreads
    obtain ⟨slot, hslot, hname⟩ := hmisreads.slot
    -- names that are not repeated have one slot each
    calc
      _ = target.slots.countP (·.name = name) := count_lackingErrors hmisreads
      _ = (target.slots.map (·.name)).count name := by
        rw [List.count, List.countP_map]
        rfl
      _ = 1 := List.count_eq_one_of_mem hnames (List.mem_map.mpr ⟨slot, hslot, hname⟩)

end Matching

namespace Sample

def product : TypeDescriptor where
  name := "Product"
  properties := [{ name := "id", type := { name := "Long" } }]

def tag : TypeDescriptor where
  name := "Tag"
  constructors :=
    [⟨[{ name := "code", type := { name := "String" } }]⟩,
      ⟨[{ name := "code", type := { name := "Int" } },
        { name := "note", type := { name := "String" } }]⟩]

def numberedTag : TypeDescriptor where
  name := "Tag"
  constructors := tag.constructors.drop 1

def misreading : OverrideSet :=
  .ofList [("code", .source "sku"), ("note", .source "remark"), ("shelf", .source "row")]

def skuMissing : MappingError := .propertyNotFound "code" "sku" ["id"]

def remarkMissing : MappingError := .propertyNotFound "note" "remark" ["id"]

theorem code_misread : Matching.Misreads product tag misreading "code" "sku" where
  reads := by rfl
  lacks := by decide
  slot := ⟨⟨"code", { name := "String" }, false⟩, by decide, rfl⟩

/-- One override is told of for each of the two codes. -/
theorem code_told_twice :
    Matching.matchSlots product tag misreading =
        .error [skuMissing, skuMissing, remarkMissing] ∧
      Matching.Misreads product tag misreading "code" "sku" ∧
      ¬ [skuMissing, skuMissing, remarkMissing].count skuMissing = 1 :=
  ⟨by rfl, code_misread, by decide⟩

/-- With a single constructor each is told of once. What is for no slot is not told of. -/
theorem misreadings_told :
    Matching.matchSlots product tag misreading =
        .error [skuMissing, skuMissing, remarkMissing] ∧
      Matching.Misreads product tag misreading "code" "sku" ∧
      [skuMissing, skuMissing, remarkMissing].count skuMissing =
        tag.slots.countP (·.name = "code") ∧
      Matching.matchSlots product numberedTag misreading = .error [skuMissing, remarkMissing] ∧
      (numberedTag.slots.map (·.name)).Nodup ∧
      [skuMissing, remarkMissing].count skuMissing = 1 := by
  have htag : Matching.matchSlots product tag misreading =
      .error [skuMissing, skuMissing, remarkMissing] := by rfl
  have hnumbered : Matching.matchSlots product numberedTag misreading =
      .error [skuMissing, remarkMissing] := by rfl
  have hnames : (numberedTag.slots.map (·.name)).Nodup := by decide
  have hmisread : Matching.Misreads product numberedTag misreading "code" "sku" :=
    ⟨code_misread.reads, code_misread.lacks, ⟨"code", { name := "Int" }, false⟩, by decide, rfl⟩
  obtain ⟨_, hcount, _⟩ := (Matching.matchSlots_reports product tag misreading).2 _ htag
  obtain ⟨_, _, honce⟩ := (Matching.matchSlots_reports product numberedTag misreading).2 _ hnumbered
  exact ⟨htag, code_misread, hcount _ _ code_misread, hnumbered, hnames,
    honce hnames _ _ hmisread⟩

end Sample

end ObjectMapping
