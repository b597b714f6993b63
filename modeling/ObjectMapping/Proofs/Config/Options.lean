import Mathlib.Data.List.Induction
import ObjectMapping.Config.Basic
import ObjectMapping.Proofs.Success
import ObjectMapping.SortedTable

namespace ObjectMapping

namespace ConfigOption

def key : ConfigOption → String
  | enforceNotNull => "enforceNotNull"
  | filenameSuffix => "generatedFilenameSuffix"
  | disabledConverters => "disabledConverters"
  | maxParallelJobs => "maxParallelJobs"

def Suits : ConfigOption → OptionValue → Prop
  | enforceNotNull, value => ∃ flag, value.asBool? = some flag
  | filenameSuffix, _ => True
  | disabledConverters, _ => True
  | maxParallelJobs, value => ∃ jobs, value.asInteger? = some jobs ∧ 1 ≤ jobs ∧ jobs ≤ 256

def last? (options : List (String × OptionValue)) (option : ConfigOption) : Option OptionValue :=
  options.reverse.lookup option.key

variable {name : String} {value : OptionValue} {options : List (String × OptionValue)}
  {option : ConfigOption}

theorem ofKey?_key (option : ConfigOption) : ofKey? option.key = some option := by
  cases option <;> decide

theorem key_of_ofKey? (h : ofKey? name = some option) : name = option.key := by
  have hmem := SortedTable.mem_of_lookup h
  simp only [List.mem_cons, Prod.mk.injEq, List.not_mem_nil, or_false] at hmem
  rcases hmem with ⟨rfl, rfl⟩ | ⟨rfl, rfl⟩ | ⟨rfl, rfl⟩ | ⟨rfl, rfl⟩ <;> rfl

/-- A key is unknown exactly if it is the key of no option. -/
theorem ofKey?_eq_none_iff : ofKey? name = none ↔ ∀ option : ConfigOption, option.key ≠ name := by
  constructor
  · rintro h option rfl
    rw [ofKey?_key] at h
    cases h
  · intro h
    cases hname : ofKey? name with
    | none => rfl
    | some option => exact absurd (key_of_ofKey? hname).symm (h option)

/-- No two options have the same key. -/
theorem key_inj {option option' : ConfigOption} : option.key = option'.key ↔ option = option' := by
  refine ⟨fun h => ?_, congrArg key⟩
  have hsome := ofKey?_key option
  rw [h, ofKey?_key] at hsome
  exact (Option.some.inj hsome).symm

/-- The last value of an option is one of those that are given. -/
theorem mem_of_last? (h : last? options option = some value) : (option.key, value) ∈ options :=
  List.mem_reverse.mp (SortedTable.mem_of_lookup h)

/-- A value behind all others is the last one for its option, and for no other. -/
theorem last?_append_singleton :
    last? (options ++ [(name, value)]) option =
      if option.key = name then some value else last? options option := by
  rw [last?, List.reverse_append]
  exact SortedTable.lookup_cons_eq_ite option.key name value options.reverse

/-- Only what is given under the option's own key counts. -/
theorem last?_filter :
    last? (options.filter (·.1 = option.key)) option = last? options option := by
  rw [last?, last?, ← List.filter_reverse]
  induction options.reverse with
  | nil => rfl
  | cons o rest ih =>
    obtain ⟨name, value⟩ := o
    rw [SortedTable.lookup_cons_eq_ite]
    by_cases hname : name = option.key
    · rw [List.filter_cons_of_pos (by simpa using hname), SortedTable.lookup_cons_eq_ite,
        if_pos hname.symm, if_pos hname.symm]
    · rw [List.filter_cons_of_neg (by simpa using hname), if_neg (Ne.symm hname), ih]

/-- Behind what is given before, what is given later decides. -/
theorem last?_append {earlier later : List (String × OptionValue)} :
    last? (earlier ++ later) option = (last? later option).or (last? earlier option) := by
  rw [last?, List.reverse_append, List.lookup_append]
  rfl

end ConfigOption

namespace Config

open ConfigOption

/-- The configuration by one value for each option that has one, and by the defaults. -/
def settled (values : ConfigOption → Option OptionValue) : Config where
  enforceNotNull := ((values .enforceNotNull).bind OptionValue.asBool?).getD false
  filenameSuffix := ((values .filenameSuffix).map OptionValue.asText).getD "Konverter"
  disabledConverters := ((values .disabledConverters).map fun v => namesOf v.asText).getD []
  maxParallelJobs := (values .maxParallelJobs).bind OptionValue.asInteger?

def Acceptable (o : String × OptionValue) : Prop :=
  ∀ option : ConfigOption, option.key = o.1 → option.Suits o.2

variable {c c' : Config} {name : String} {value : OptionValue}
  {options options' : List (String × OptionValue)} {values : ConfigOption → Option OptionValue}

/-! ### One option -/

/-- A number of jobs is accepted from 1 up to 256. -/
theorem jobsOf_eq_ok_iff {jobs : Nat} :
    jobsOf value = .ok jobs ↔ value.asInteger? = some jobs ∧ 1 ≤ jobs ∧ jobs ≤ 256 := by
  unfold jobsOf
  cases value.asInteger? with
  | none => simp
  | some n =>
    cases n with
    | zero =>
      simp only [reduceCtorEq, Option.some.injEq, false_iff]
      omega
    | succ n =>
      have hlimit : maxJobsLimit = 256 := rfl
      simp only [Option.some.injEq]
      by_cases hn : n + 1 ≤ maxJobsLimit
      · rw [if_pos hn, Except.ok.injEq]
        omega
      · rw [if_neg hn]
        simp only [reduceCtorEq, false_iff]
        omega

/-- A value that suits its option takes the place of the one before. -/
theorem applyKnown_settled_eq_ok_iff (option : ConfigOption) :
    (settled values).applyKnown option value = .ok c ↔
      option.Suits value ∧ c = settled fun o => if o = option then some value else values o := by
  cases option with
  | enforceNotNull =>
    cases hflag : value.asBool? <;>
      simp [applyKnown, Suits, settled, hflag, eq_comm]
  | filenameSuffix => simp [applyKnown, Suits, settled, eq_comm]
  | disabledConverters => simp [applyKnown, Suits, settled, eq_comm]
  | maxParallelJobs =>
    have hmap :
        ((jobsOf value).map fun n => { settled values with maxParallelJobs := some n }) = .ok c ↔
          ∃ jobs, jobsOf value = .ok jobs ∧
            { settled values with maxParallelJobs := some jobs } = c := map_eq_ok_iff
    rw [applyKnown, hmap]
    constructor
    · rintro ⟨jobs, hjobs, rfl⟩
      have hvalue := jobsOf_eq_ok_iff.mp hjobs
      exact ⟨⟨jobs, hvalue⟩, by simp [settled, hvalue.1]⟩
    · rintro ⟨⟨jobs, hvalue⟩, rfl⟩
      exact ⟨jobs, jobsOf_eq_ok_iff.mpr hvalue, by simp [settled, hvalue.1]⟩

theorem applyOption_key (option : ConfigOption) :
    c.applyOption option.key value =
      (c.applyKnown option value).mapError (.invalidOption option.key) := by
  rw [applyOption, ofKey?_key]

/-- One more option is tested, and decides from then on about what its key names. -/
theorem applyOption_settled_eq_ok_iff :
    (settled (last? options)).applyOption name value = .ok c ↔
      Acceptable (name, value) ∧ c = settled (last? (options ++ [(name, value)])) := by
  cases hname : ofKey? name with
  | none =>
    -- an unknown key is no option's, so nothing is tested and nothing decided
    have hne := ofKey?_eq_none_iff.mp hname
    have hacceptable : Acceptable (name, value) := fun option h => absurd h (hne option)
    have hlast : last? (options ++ [(name, value)]) = last? options := by
      funext option
      rw [last?_append_singleton, if_neg (hne option)]
    rw [applyOption, hname, hlast, and_iff_right hacceptable, Except.ok.injEq, eq_comm]
  | some option =>
    obtain rfl := key_of_ofKey? hname
    have hacceptable : Acceptable (option.key, value) ↔ option.Suits value := by
      constructor
      · intro h
        exact h option rfl
      · rintro h option' hkey
        rwa [key_inj.mp hkey]
    have hlast : last? (options ++ [(option.key, value)]) = fun o =>
        if o = option then some value else last? options o := by
      funext o
      simp only [last?_append_singleton, key_inj]
    rw [applyOption_key, mapError_eq_ok_iff, applyKnown_settled_eq_ok_iff, hacceptable, hlast]

/-! ### Many options -/

theorem settled_last?_nil : settled (last? []) = {} := rfl

/-- Options are applied if each of them can be, and then the last one of each key has decided. -/
theorem ofOptions_eq_ok_iff :
    ofOptions options = .ok c ↔ (∀ o ∈ options, Acceptable o) ∧ c = settled (last? options) := by
  -- from the last option, as it is the one that decides
  induction options using List.reverseRecOn generalizing c with
  | nil =>
    rw [settled_last?_nil, ofOptions, applyOptions, List.foldlM_nil]
    simp [pure, Except.pure, eq_comm]
  | append_singleton options o ih =>
    have hsplit : ofOptions (options ++ [o]) =
        ofOptions options >>= fun c => c.applyOption o.1 o.2 := by
      rw [ofOptions, ofOptions, applyOptions, applyOptions, List.foldlM_append]
      simp
    rw [hsplit, bind_eq_ok_iff, List.forall_mem_append, List.forall_mem_singleton]
    constructor
    · rintro ⟨before, hbefore, ho⟩
      obtain ⟨hall, rfl⟩ := ih.mp hbefore
      obtain ⟨hacceptable, rfl⟩ := applyOption_settled_eq_ok_iff.mp ho
      exact ⟨⟨hall, hacceptable⟩, rfl⟩
    · rintro ⟨⟨hall, hacceptable⟩, rfl⟩
      exact ⟨_, ih.mpr ⟨hall, rfl⟩, applyOption_settled_eq_ok_iff.mpr ⟨hacceptable, rfl⟩⟩

/-- An option can be applied on its own exactly if its key is unknown or its value suits it. -/
theorem exists_ofOptions_singleton_iff {o : String × OptionValue} :
    (∃ c, ofOptions [o] = .ok c) ↔ Acceptable o := by
  simp [ofOptions_eq_ok_iff]

/-- What is given under unknown keys is acceptable whatever it is. -/
theorem forall_acceptable_iff : (∀ o ∈ options, Acceptable o) ↔
    ∀ option : ConfigOption, ∀ o ∈ options.filter (·.1 = option.key), option.Suits o.2 := by
  constructor
  · intro h option o ho
    obtain ⟨hmem, hkey⟩ := List.mem_filter.mp ho
    exact h o hmem option (of_decide_eq_true hkey).symm
  · intro h o hmem option hkey
    exact h option o (List.mem_filter.mpr ⟨hmem, decide_eq_true hkey.symm⟩)

/-- Only the order of options under one key matters, and only for known keys. -/
theorem ofOptions_congr (h : ∀ option : ConfigOption,
    options.filter (·.1 = option.key) = options'.filter (·.1 = option.key)) :
    ofOptions options = .ok c ↔ ofOptions options' = .ok c := by
  have hlast : last? options = last? options' := by
    funext option
    rw [← last?_filter, h, last?_filter]
  rw [ofOptions_eq_ok_iff, ofOptions_eq_ok_iff, hlast, forall_acceptable_iff,
    forall_acceptable_iff]
  simp only [h]

/-- Whatever the options are, the number of jobs is unlimited or in range. -/
theorem jobs_of_ofOptions (h : ofOptions options = .ok c) :
    c.maxParallelJobs = none ∨ ∃ jobs, c.maxParallelJobs = some jobs ∧ 1 ≤ jobs ∧ jobs ≤ 256 := by
  obtain ⟨hall, rfl⟩ := ofOptions_eq_ok_iff.mp h
  cases hlast : last? options .maxParallelJobs with
  | none => exact .inl (by rw [settled, hlast]; rfl)
  | some value =>
    obtain ⟨jobs, hvalue, hrange⟩ := hall _ (mem_of_last? hlast) .maxParallelJobs rfl
    refine .inr ⟨jobs, ?_, hrange⟩
    simp only [settled, hlast]
    exact hvalue

/-! ### In place -/

/-- In place an option has the same outcome, and where it fails the configuration stays. -/
theorem setOption_outcome (c : Config) (name : String) (value : OptionValue) :
    (∃ c', c.applyOption name value = .ok c' ∧ setOption name value c = .ok () c') ∨
      ∃ e, c.applyOption name value = .error e ∧ setOption name value c = .error e c := by
  unfold applyOption setOption
  cases ofKey? name with
  | none => exact .inl ⟨c, rfl, rfl⟩
  | some option =>
    cases option with
    | enforceNotNull =>
      simp only [applyKnown]
      cases value.asBool? with
      | none => exact .inr ⟨_, rfl, rfl⟩
      | some flag => exact .inl ⟨_, rfl, rfl⟩
    | filenameSuffix | disabledConverters => exact .inl ⟨_, rfl, rfl⟩
    | maxParallelJobs =>
      simp only [applyKnown]
      cases jobsOf value with
      | error reason => exact .inr ⟨_, rfl, rfl⟩
      | ok jobs => exact .inl ⟨_, rfl, rfl⟩

end Config

end ObjectMapping
