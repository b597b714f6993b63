import ObjectMapping.Proofs.Mapping.Misreading
import ObjectMapping.Proofs.Mapping.Result
import ObjectMapping.Proofs.Override.Partition

namespace ObjectMapping

def OverrideDecl.reads? (d : OverrideDecl) : Option String :=
  if d.ignore ∨ d.constant.isSome ∨ d.expression.isSome then none
  else some (d.source.getD d.target)

theorem OverrideDecl.property?_effect (d : OverrideDecl) : d.effect.property? = d.reads? := by
  unfold effect kind reads?
  cases d.ignore <;> cases d.constant <;> cases d.expression <;> cases d.source <;> rfl

namespace Matching

def missing? (source : TypeDescriptor) (decls : List OverrideDecl) (name : String) :
    Option String :=
  ((OverrideSet.effective? decls name).bind OverrideDecl.reads?).filter (· ∉ source.propertyNames)

def missingErrors (source target : TypeDescriptor) (decls : List OverrideDecl) :
    List MappingError :=
  target.slots.filterMap fun slot =>
    (missing? source decls slot.name).map fun name =>
      .propertyNotFound slot.name name source.propertyNames

theorem lacking?_partition (source : TypeDescriptor) (decls : List OverrideDecl) (name : String) :
    lacking? source (OverrideSet.partition decls).overrides name = missing? source decls name := by
  rw [lacking?, OverrideSet.find?_partition, missing?, Option.bind_map]
  have hsame : OverrideKind.property? ∘ OverrideDecl.effect = OverrideDecl.reads? :=
    funext OverrideDecl.property?_effect
  rw [hsame]

/-- Slots cannot be matched exactly if declarations in effect read what the source lacks. -/
theorem matchSlots_partition_eq_error_iff {source target : TypeDescriptor}
    {decls : List OverrideDecl} {errors : List MappingError} :
    matchSlots source target (OverrideSet.partition decls).overrides = .error errors ↔
      errors ≠ [] ∧ errors = missingErrors source target decls := by
  simp only [matchSlots_eq_error_iff, lackingErrors, lacking?_partition, missingErrors]

end Matching

namespace MappingRequest

/-- Something is wrong with the declarations: one conflicts, or that in effect for some slot reads a
property that the source lacks. -/
def Flawed (source target : TypeDescriptor) (decls : List OverrideDecl) : Prop :=
  (∃ d ∈ decls, d.Conflicts) ∨
    ∃ slot ∈ target.slots, ∃ name, Matching.missing? source decls slot.name = some name

/-- All that is wrong with the declarations: the conflicts as they are declared, and then the
properties that the source lacks, slot by slot. -/
def flaws (source target : TypeDescriptor) (decls : List OverrideDecl) : List MappingError :=
  (decls.filter (·.Conflicts)).map (fun d => .conflictingOverride d.conflict) ++
    Matching.missingErrors source target decls

variable {source target : TypeDescriptor} {decls : List OverrideDecl}

/-- There are flaws to tell exactly if something is wrong. -/
theorem flaws_ne_nil_iff : flaws source target decls ≠ [] ↔ Flawed source target decls := by
  have hconflicts : (decls.filter (·.Conflicts)).map
      (fun d => MappingError.conflictingOverride d.conflict) ≠ [] ↔ ∃ d ∈ decls, d.Conflicts := by
    simp [List.filter_eq_nil_iff]
  have hmissing : Matching.missingErrors source target decls ≠ [] ↔
      ∃ slot ∈ target.slots, ∃ name, Matching.missing? source decls slot.name = some name := by
    simp [Matching.missingErrors, List.filterMap_eq_nil_iff, Option.ne_none_iff_exists']
  rw [flaws, ne_eq, List.append_eq_nil_iff, not_and_or, Flawed, ← hconflicts, ← hmissing]

/-- All flaws lie in the overrides. -/
theorem isOverrideError_of_mem_flaws {e : MappingError} (he : e ∈ flaws source target decls) :
    e.isOverrideError = true := by
  rcases List.mem_append.mp he with he | he
  · obtain ⟨d, _, rfl⟩ := List.mem_map.mp he
    rfl
  · obtain ⟨slot, _, hslot⟩ := List.mem_filterMap.mp he
    obtain ⟨name, _, rfl⟩ := Option.map_eq_some_iff.mp hslot
    rfl

end MappingRequest

/-- That no constructor can be called does not lie in the overrides. -/
theorem Construction.isOverrideError_of_choose {plans : List PropertyPlan} {target : TypeDescriptor}
    {explicit : Option Signature} {e : MappingError}
    (h : choose plans target explicit = .error e) : e.isOverrideError = false := by
  unfold choose at h
  split at h
  · split at h
    · cases h
    · cases h
      rfl
  · split at h
    · cases h
      rfl
    · split at h
      · cases h
      · cases h
        rfl

namespace Resolver

open MappingRequest

variable {r : Resolver} {source target : TypeDescriptor} {decls : List OverrideDecl}
  {request : MappingRequest}

/-- Planning fails with all flaws, if there are any. -/
theorem planDeclared_eq_error_iff {errors : List MappingError} :
    r.planDeclared source target decls = .error errors ↔
      errors ≠ [] ∧ errors = flaws source target decls := by
  have hconflicts : (OverrideSet.partition decls).conflicts.map MappingError.conflictingOverride =
      (decls.filter (·.Conflicts)).map (fun d => .conflictingOverride d.conflict) := by
    rw [OverrideSet.conflicts_partition, List.map_map]
    rfl
  simp only [planDeclared, planSlots, hconflicts, flaws]
  cases hmatched : Matching.matchSlots source target (OverrideSet.partition decls).overrides with
  | error missing =>
    obtain ⟨hne, rfl⟩ := Matching.matchSlots_partition_eq_error_iff.mp hmatched
    exact Matching.error_eq_error_iff (List.append_ne_nil_of_right_ne_nil _ hne)
  | ok ms =>
    -- all slots are matched, so that only conflicts are left to tell
    have hnone : Matching.missingErrors source target decls = [] := by
      by_contra hne
      rw [Matching.matchSlots_partition_eq_error_iff.mpr ⟨hne, rfl⟩] at hmatched
      cases hmatched
    rw [hnone, List.append_nil]
    cases (decls.filter (·.Conflicts)).map
        fun d => MappingError.conflictingOverride d.conflict with
    | nil => exact Matching.ok_eq_error_iff
    | cons first rest => exact Matching.error_eq_error_iff (List.cons_ne_nil first rest)

/-- A mapping fails by what is wrong with its overrides or, if nothing is, by the choice of a
constructor. -/
theorem resolvePair_eq_error_iff {failure : MappingFailure} :
    r.resolvePair source target request = .error failure ↔
      ∃ errors, failure = ⟨source.name, target.name, errors⟩ ∧
        (r.planDeclared source target request.overrides = .error errors ∨
          ∃ plans e, r.planDeclared source target request.overrides = .ok plans ∧
            Construction.choose plans target request.constructor = .error e ∧ errors = [e]) := by
  unfold resolvePair selectFor
  cases r.planDeclared source target request.overrides with
  | error errors =>
    constructor
    · intro h
      exact ⟨errors, (Except.error.inj h).symm, Or.inl rfl⟩
    · rintro ⟨_, rfl, h | ⟨_, _, h, _⟩⟩
      · cases h
        rfl
      · cases h
  | ok plans =>
    simp only [Construction.select_eq]
    -- once the slots are planned, only the choice can fail: the place it gives is always found
    cases hchoose : Construction.choose plans target request.constructor with
    | ok ci => simp [Except.map, Except.mapError, hchoose]
    | error e =>
      constructor
      · intro h
        exact ⟨[e], (Except.error.inj h).symm, Or.inr ⟨plans, e, rfl, hchoose, rfl⟩⟩
      · rintro ⟨_, rfl, h | ⟨_, _, hplans, he, rfl⟩⟩
        · cases h
        · cases hplans
          rw [hchoose] at he
          cases he
          rfl

/-- A failure is complete and of one kind. Either something is wrong with the overrides, and all of
that is told and nothing else; or nothing is, and the one error is about constructors. Nothing that
is wrong with the overrides is ever passed over. -/
theorem resolvePair_failure (r : Resolver) (source target : TypeDescriptor)
    (request : MappingRequest) :
    (∀ failure, r.resolvePair source target request = .error failure →
      failure.errors ≠ [] ∧
      ((Flawed source target request.overrides ∧
          failure.errors = flaws source target request.overrides ∧
          ∀ e ∈ failure.errors, e.isOverrideError = true) ∨
        (¬ Flawed source target request.overrides ∧
          ∃ e, failure.errors = [e] ∧ e.isOverrideError = false))) ∧
    (Flawed source target request.overrides →
      ∃ failure, r.resolvePair source target request = .error failure) := by
  constructor
  · intro failure h
    obtain ⟨errors, rfl, hflawed | ⟨plans, e, hplans, hchoose, rfl⟩⟩ :=
      resolvePair_eq_error_iff.mp h
    · obtain ⟨hne, rfl⟩ := planDeclared_eq_error_iff.mp hflawed
      refine ⟨hne, Or.inl ⟨flaws_ne_nil_iff.mp hne, rfl, ?_⟩⟩
      intro e he
      exact isOverrideError_of_mem_flaws he
    · have hkind := Construction.isOverrideError_of_choose hchoose
      refine ⟨List.cons_ne_nil _ _, Or.inr ⟨?_, e, rfl, hkind⟩⟩
      intro hflawed
      -- plans were made, so nothing can have been wrong
      rw [planDeclared_eq_error_iff.mpr ⟨flaws_ne_nil_iff.mpr hflawed, rfl⟩] at hplans
      cases hplans
  · intro hflawed
    have herror := planDeclared_eq_error_iff (r := r).mpr ⟨flaws_ne_nil_iff.mpr hflawed, rfl⟩
    exact ⟨_, resolvePair_eq_error_iff.mpr ⟨_, rfl, Or.inl herror⟩⟩

end Resolver

namespace Sample

def flawedRequest : MappingRequest where
  source := "Order"
  target := "Invoice"
  overrides :=
    [{ target := "note", source := some "remark" },
      { target := "id", source := some "id", constant := some "0" },
      { target := "label", source := some "number" },
      { target := "note", constant := some "none", expression := some "it.note" }]

def flawedFailure : MappingFailure where
  sourceType := "Order"
  targetType := "Invoice"
  errors :=
    [.conflictingOverride ⟨"id", ["source", "constant"]⟩,
      .conflictingOverride ⟨"note", ["constant", "expression"]⟩,
      .propertyNotFound "label" "number" ["id", "items", "note"],
      .propertyNotFound "note" "remark" ["id", "items", "note"]]

def withoutId : MappingRequest where
  source := "Order"
  target := "Invoice"
  overrides := [{ target := "id", ignore := true }]

def withoutIdFailure : MappingFailure where
  sourceType := "Order"
  targetType := "Invoice"
  errors :=
    [.noMatchingConstructor "Invoice" [⟨"id", long, .ignored⟩, ⟨"id", text, .ignored⟩]]

/-- A failure by overrides, in which nothing is told of the constructors, and one by
constructors. -/
theorem failures_told :
    Resolver.resolvePair ⟨.standard, false⟩ order invoice flawedRequest = .error flawedFailure ∧
      MappingRequest.Flawed order invoice flawedRequest.overrides ∧
      flawedFailure.errors = MappingRequest.flaws order invoice flawedRequest.overrides ∧
      Resolver.resolvePair ⟨.standard, false⟩ order invoice withoutId = .error withoutIdFailure ∧
      ¬ MappingRequest.Flawed order invoice withoutId.overrides := by
  have hflawed := (Resolver.resolvePair_failure ⟨.standard, false⟩ order invoice flawedRequest).1
    flawedFailure (by rfl)
  have hsingle := (Resolver.resolvePair_failure ⟨.standard, false⟩ order invoice withoutId).1
    withoutIdFailure (by rfl)
  obtain ⟨_, ⟨hflaws, htold, _⟩ | ⟨_, e, he, _⟩⟩ := hflawed
  · refine ⟨by rfl, hflaws, htold, by rfl, ?_⟩
    obtain ⟨_, ⟨_, _, hall⟩ | ⟨hsound, _⟩⟩ := hsingle
    · cases hall _ List.mem_cons_self
    · exact hsound
  · cases he

end Sample

end ObjectMapping
