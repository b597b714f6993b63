import Mathlib.Control.Monad.Basic
import ObjectMapping.Manifest
import ObjectMapping.Proofs.Config.Options

namespace ObjectMapping

namespace Manifest

open ConfigOption

/-- The options of a run: those of the manifest in order of their keys, and the assignments behind
them. A malformed assignment stands for its error. -/
def given (m : Manifest) (assignments : List String) :
    List (Except ConfigError (String × OptionValue)) :=
  m.options.entries.map .ok ++ assignments.map OptionValue.parseAssignment

variable {m : Manifest} {assignments : List String} {c : Config}

/-- All options given are applied one after the other, up to the first fault. -/
theorem config_eq_foldlM : m.config assignments =
    (m.given assignments).foldlM (fun c o => o >>= fun o => c.applyOption o.1 o.2)
      ({} : Config) := by
  rw [given, List.foldlM_append, List.foldlM_map]
  simp only [List.foldlM_map]
  rfl

/-- Assignments are read, and then applied as options are. -/
theorem foldlM_applyAssignment_eq_ok_iff {before : Config} :
    assignments.foldlM Config.applyAssignment before = .ok c ↔
      ∃ assigned, assignments.mapM OptionValue.parseAssignment = .ok assigned ∧
        before.applyOptions assigned = .ok c := by
  simp only [mapM_eq_ok_iff]
  induction assignments generalizing before with
  | nil => simp [Config.applyOptions]
  | cons a rest ih =>
    -- the first assignment is read and applied before the next is read, which makes no difference
    have hstep : ∀ {next}, before.applyAssignment a = .ok next ↔
        ∃ o, OptionValue.parseAssignment a = .ok o ∧ before.applyOption o.1 o.2 = .ok next :=
      bind_eq_ok_iff
    have hcons : ∀ {o assigned}, before.applyOptions (o :: assigned) = .ok c ↔
        ∃ next, before.applyOption o.1 o.2 = .ok next ∧ next.applyOptions assigned = .ok c := by
      intro o assigned
      rw [Config.applyOptions, List.foldlM_cons, bind_eq_ok_iff]
      rfl
    rw [List.foldlM_cons, bind_eq_ok_iff]
    constructor
    · rintro ⟨next, hnext, hrest⟩
      obtain ⟨o, ho, happly⟩ := hstep.mp hnext
      obtain ⟨assigned, hassigned, hlater⟩ := ih.mp hrest
      exact ⟨o :: assigned, .cons ho hassigned, hcons.mpr ⟨next, happly, hlater⟩⟩
    · rintro ⟨all, hall, happly⟩
      cases hall with
      | cons ho hassigned =>
        obtain ⟨next, hnext, hlater⟩ := hcons.mp happly
        exact ⟨next, hstep.mpr ⟨_, ho, hnext⟩, ih.mpr ⟨_, hassigned, hlater⟩⟩

/-- Assignments that are well-formed count as options behind those of the manifest. -/
theorem config_eq_ok_iff : m.config assignments = .ok c ↔
    ∃ assigned, assignments.mapM OptionValue.parseAssignment = .ok assigned ∧
      Config.ofOptions (m.options.entries ++ assigned) = .ok c := by
  have happend : ∀ {assigned}, Config.ofOptions (m.options.entries ++ assigned) = .ok c ↔
      ∃ before, Config.ofOptions m.options.entries = .ok before ∧
        before.applyOptions assigned = .ok c := by
    intro assigned
    rw [Config.ofOptions, Config.applyOptions, List.foldlM_append, bind_eq_ok_iff]
    rfl
  have hconfig : m.config assignments = .ok c ↔
      ∃ before, Config.ofOptions m.options.entries = .ok before ∧
        assignments.foldlM Config.applyAssignment before = .ok c := bind_eq_ok_iff
  simp only [hconfig, happend, foldlM_applyAssignment_eq_ok_iff]
  constructor
  · rintro ⟨before, hbefore, assigned, hassigned, happly⟩
    exact ⟨assigned, hassigned, before, hbefore, happly⟩
  · rintro ⟨assigned, hassigned, before, hbefore, happly⟩
    exact ⟨before, hbefore, assigned, hassigned, happly⟩

/-- A manifest has one value for each key. -/
theorem last?_entries (t : SortedTable OptionValue) (option : ConfigOption) :
    last? t.entries option = t.find? option.key := by
  obtain ⟨entries, hascending⟩ := t
  rw [SortedTable.find?]
  induction entries with
  | nil => rfl
  | cons first rest ih =>
    obtain ⟨k, value⟩ := first
    obtain ⟨hfirst, hrest⟩ := List.pairwise_cons.mp hascending
    have hlast : last? ((k, value) :: rest) option =
        (last? rest option).or (if option.key = k then some value else none) := by
      rw [← List.singleton_append, last?_append]
      congr 1
      exact SortedTable.lookup_cons_eq_ite option.key k value []
    rw [hlast, ih hrest, SortedTable.lookup_cons_eq_ite]
    by_cases hk : option.key = k
    · -- all later keys are greater
      have hnone : rest.lookup option.key = none := by
        rw [List.lookup_eq_none_iff]
        intro e he
        have hlt := hfirst e he
        rw [hk, bne_iff_ne]
        intro heq
        rw [← heq] at hlt
        exact String.lt_irrefl k hlt
      rw [hnone, if_pos hk]
      rfl
    · rw [if_neg hk, if_neg hk, Option.or_none]

end Manifest

/-- Options are tested one by one and settled by the last one of each key, in whatever order the
keys come. A failing one leaves the configuration as it is. Assignments come behind the options of
a manifest, so they decide about the keys that both give. -/
theorem options_settled :
    (∀ options c, Config.ofOptions options = .ok c ↔
        (∀ o ∈ options, ∃ c', Config.ofOptions [o] = .ok c') ∧
          c = Config.settled (ConfigOption.last? options)) ∧
      (∀ o, (∃ c, Config.ofOptions [o] = .ok c) ↔ Config.Acceptable o) ∧
      (∀ options options' : List (String × OptionValue),
        (∀ option : ConfigOption,
          options.filter (·.1 = option.key) = options'.filter (·.1 = option.key)) →
        ∀ c, Config.ofOptions options = .ok c ↔ Config.ofOptions options' = .ok c) ∧
      (∀ options c, Config.ofOptions options = .ok c →
        c.maxParallelJobs = none ∨
          ∃ jobs, c.maxParallelJobs = some jobs ∧ 1 ≤ jobs ∧ jobs ≤ 256) ∧
      (∀ c name value,
        (∃ c', c.applyOption name value = .ok c' ∧ Config.setOption name value c = .ok () c') ∨
          ∃ e, c.applyOption name value = .error e ∧
            Config.setOption name value c = .error e c) ∧
      (∀ (m : Manifest) assignments, m.config assignments =
        (m.given assignments).foldlM (fun c o => o >>= fun o => c.applyOption o.1 o.2) {}) ∧
      (∀ (m : Manifest) assignments c, m.config assignments = .ok c →
        ∃ assigned, assignments.mapM OptionValue.parseAssignment = .ok assigned ∧
          c = Config.settled fun option =>
            (ConfigOption.last? assigned option).or (m.options.find? option.key)) := by
  refine ⟨?_, fun _ => Config.exists_ofOptions_singleton_iff,
    fun _ _ h _ => Config.ofOptions_congr h, fun _ _ => Config.jobs_of_ofOptions,
    Config.setOption_outcome, fun _ _ => Manifest.config_eq_foldlM, ?_⟩
  · intro options c
    simp only [Config.exists_ofOptions_singleton_iff]
    exact Config.ofOptions_eq_ok_iff
  · intro m assignments c h
    obtain ⟨assigned, hassigned, hoptions⟩ := Manifest.config_eq_ok_iff.mp h
    obtain ⟨-, rfl⟩ := Config.ofOptions_eq_ok_iff.mp hoptions
    refine ⟨assigned, hassigned, congrArg Config.settled ?_⟩
    funext option
    rw [ConfigOption.last?_append, Manifest.last?_entries]

namespace Sample

def workshopOptions : List (String × OptionValue) :=
  [("generatedFilenameSuffix", .text "Mapper"), ("maxParallelJobs", .text "+8"),
    ("color", .bool true), ("enforceNotNull", .text " true "),
    ("disabledConverters", .text " ToAny, ,ToString,"), ("maxParallelJobs", .integer 256),
    ("generatedFilenameSuffix", .integer 7)]

def reorderedOptions : List (String × OptionValue) :=
  [("disabledConverters", .text " ToAny, ,ToString,"), ("enforceNotNull", .text " true "),
    ("maxParallelJobs", .text "+8"), ("maxParallelJobs", .integer 256),
    ("generatedFilenameSuffix", .text "Mapper"), ("generatedFilenameSuffix", .integer 7)]

def workshopConfig : Config where
  enforceNotNull := true
  filenameSuffix := "7"
  disabledConverters := ["ToAny", "ToString"]
  maxParallelJobs := some 256

def workshop : Manifest where
  options :=
    .ofList
      [("maxParallelJobs", .integer 4), ("enforceNotNull", .bool true),
       ("disabledConverters", .text "ToAny"), ("generatedFilenameSuffix", .bool false)]
  types := .ofList []

def workshopAssignments : List String :=
  ["enforceNotNull = false", "disabledConverters = IntToLong , ToAny"]

def assignedConfig : Config where
  filenameSuffix := "false"
  disabledConverters := ["IntToLong", "ToAny"]
  maxParallelJobs := some 4

/-- Options in two orders, one that fails, and a manifest of which two options are overridden. -/
theorem workshop_settled :
    Config.ofOptions workshopOptions = .ok workshopConfig ∧
      Config.settled (ConfigOption.last? workshopOptions) = workshopConfig ∧
      Config.ofOptions reorderedOptions = .ok workshopConfig ∧
      Config.setOption "maxParallelJobs" (.integer 257) {} =
        .error (.invalidOption "maxParallelJobs" "must be at most 256") {} ∧
      workshop.config workshopAssignments = .ok assignedConfig ∧
      ∃ assigned, workshopAssignments.mapM OptionValue.parseAssignment = .ok assigned ∧
        assignedConfig = Config.settled fun option =>
          (ConfigOption.last? assigned option).or (workshop.options.find? option.key) := by
  obtain ⟨hiff, -, hcongr, -, hatomic, -, hmanifest⟩ := options_settled
  have hoptions : Config.ofOptions workshopOptions = .ok workshopConfig := by decide +kernel
  have hsame : ∀ option : ConfigOption, workshopOptions.filter (·.1 = option.key) =
      reorderedOptions.filter (·.1 = option.key) := by
    intro option
    cases option <;> decide +kernel
  have hconfig : workshop.config workshopAssignments = .ok assignedConfig := by decide +kernel
  refine ⟨hoptions, ((hiff _ _).mp hoptions).2.symm, (hcongr _ _ hsame _).mp hoptions, ?_, hconfig,
    hmanifest _ _ _ hconfig⟩
  have herror : ({} : Config).applyOption "maxParallelJobs" (.integer 257) =
      .error (.invalidOption "maxParallelJobs" "must be at most 256") := by decide +kernel
  rcases hatomic {} "maxParallelJobs" (.integer 257) with ⟨c', hok, -⟩ | ⟨e, he, hset⟩
  · rw [herror] at hok
    cases hok
  · rw [herror] at he
    cases he
    exact hset

end Sample

end ObjectMapping
