import ObjectMapping.Proofs.Mapping.Optimality

namespace ObjectMapping

inductive PropertyPlan.LeavesOut (plan : PropertyPlan) : Blocker → Prop
  | ignored (h : plan.resolution = .ignored) : LeavesOut plan .ignored
  | unresolved {source : Option String} {reason : UnresolvedReason}
      (h : plan.resolution = .unresolved source reason) : LeavesOut plan (.unresolved reason)

def TypeDescriptor.required (target : TypeDescriptor) : List Property :=
  target.constructors.flatMap (·.required)

namespace Construction

/-- The slot of this name and type is ignored or unresolved. -/
def LeftOut (plans : List PropertyPlan) (key : String × TypeRef) : Prop :=
  ∃ plan ∈ plans, plan.key = key ∧ ∃ cause, plan.LeavesOut cause

def Blocks (plans : List PropertyPlan) (p : Property) : Prop :=
  p.required = true ∧ LeftOut plans p.key

variable {plans : List PropertyPlan} {target : TypeDescriptor} {p : Property} {c : Constructor}
  {i : Nat} {s : Signature} {b : BlockedParameter} {cause : Blocker} {e : MappingError}

theorem exists_leavesOut_iff {plan : PropertyPlan} :
    (∃ cause, plan.LeavesOut cause) ↔ plan.isResolved = false := by
  constructor
  · rintro ⟨_, h | h⟩
    · rw [PropertyPlan.isResolved, h]
    · rw [PropertyPlan.isResolved, h]
  · intro h
    cases hres : plan.resolution with
    | ignored => exact ⟨_, .ignored hres⟩
    | unresolved source reason => exact ⟨_, .unresolved hres⟩
    | matchedByName | matchedByOverride | constant | expression =>
      simp [PropertyPlan.isResolved, hres] at h

instance (plans : List PropertyPlan) (key : String × TypeRef) : Decidable (LeftOut plans key) :=
  decidable_of_iff (∃ plan ∈ plans, plan.key = key ∧ plan.isResolved = false) (by
    simp only [LeftOut, exists_leavesOut_iff])

instance (plans : List PropertyPlan) (p : Property) : Decidable (Blocks plans p) :=
  inferInstanceAs (Decidable (_ ∧ _))

/-- A parameter with a planned slot is blocked for the cause that its plan gives. -/
theorem blocker?_eq_some_iff (hk : (plans.map (·.key)).Nodup) (hp : p.key ∈ plans.map (·.key)) :
    blocker? plans p = some cause ↔ ∃ plan ∈ plans, plan.key = p.key ∧ plan.LeavesOut cause := by
  obtain ⟨plan, hplan, hkey⟩ := List.mem_map.mp hp
  have hfound := (planFor?_eq_some_iff hk).mpr ⟨hplan, hkey⟩
  -- no other plan has the key, so the cause is that of the plan that is found
  have honly : (∃ plan ∈ plans, plan.key = p.key ∧ plan.LeavesOut cause) ↔
      plan.LeavesOut cause := by
    constructor
    · rintro ⟨other, hother, hotherkey, hcause⟩
      rwa [List.inj_on_of_nodup_map hk hother hplan (hotherkey.trans hkey.symm)] at hcause
    · intro hcause
      exact ⟨plan, hplan, hkey, hcause⟩
  rw [honly, blocker?, hfound]
  constructor
  · intro h
    cases hres : plan.resolution with
    | ignored =>
      simp only [hres] at h
      cases h
      exact .ignored hres
    | unresolved source reason =>
      simp only [hres] at h
      cases h
      exact .unresolved hres
    | matchedByName | matchedByOverride | constant | expression => simp [hres] at h
  · rintro (h | h)
    · simp only [h]
    · simp only [h]

/-- A parameter has no value exactly if its slot is left out. -/
theorem isSome_blocker?_iff (hk : (plans.map (·.key)).Nodup) (hp : p.key ∈ plans.map (·.key)) :
    (blocker? plans p).isSome = true ↔ LeftOut plans p.key := by
  simp only [Option.isSome_iff_exists, blocker?_eq_some_iff hk hp, LeftOut]
  constructor
  · rintro ⟨cause, plan, hplan, hkey, hcause⟩
    exact ⟨plan, hplan, hkey, cause, hcause⟩
  · rintro ⟨plan, hplan, hkey, cause, hcause⟩
    exact ⟨cause, plan, hplan, hkey, hcause⟩

theorem mem_blocked :
    b ∈ blocked plans c ↔ ∃ p ∈ c.required, p.key = b.key ∧ blocker? plans p = some b.cause := by
  simp only [blocked, List.mem_filterMap, Option.map_eq_some_iff]
  constructor
  · rintro ⟨p, hp, cause, hcause, rfl⟩
    exact ⟨p, hp, rfl, hcause⟩
  · rintro ⟨p, hp, hkey, hcause⟩
    have hname : p.name = b.name := congrArg Prod.fst hkey
    have htype : p.type = b.type := congrArg Prod.snd hkey
    exact ⟨p, hp, b.cause, hcause, by rw [hname, htype]⟩

/-- The blocked parameters are the required ones that are left out, in order. -/
theorem map_key_blocked (hk : (plans.map (·.key)).Nodup)
    (hc : ∀ p ∈ c.parameters, p.key ∈ plans.map (·.key)) :
    (blocked plans c).map (·.key) = (c.required.map Property.key).filter (LeftOut plans ·) := by
  have hrequired : ∀ p ∈ c.required, p.key ∈ plans.map (·.key) := by
    intro p hp
    exact hc p (List.mem_of_mem_filter hp)
  rw [blocked]
  generalize c.required = ps at hrequired ⊢
  induction ps with
  | nil => rfl
  | cons p rest ih =>
    obtain ⟨hp, hrest⟩ := List.forall_mem_cons.mp hrequired
    have hleft := isSome_blocker?_iff hk hp
    rw [List.map_cons]
    cases hblocker : blocker? plans p with
    | none =>
      have hno : ¬ LeftOut plans p.key := by simp [← hleft, hblocker]
      rw [List.filterMap_cons_none (by rw [hblocker]; rfl),
        List.filter_cons_of_neg (by simpa using hno), ih hrest]
    | some cause =>
      have hyes : LeftOut plans p.key := by simp [← hleft, hblocker]
      rw [List.filterMap_cons_some (by rw [hblocker]; rfl),
        List.filter_cons_of_pos (by simpa using hyes), List.map_cons, ih hrest]
      rfl

/-- A constructor is not satisfiable exactly if some parameter blocks it. -/
theorem isSatisfiable_eq_false_iff (hk : (plans.map (·.key)).Nodup)
    (hc : ∀ p ∈ c.parameters, p.key ∈ plans.map (·.key)) :
    isSatisfiable plans c = false ↔ ∃ p ∈ c.parameters, Blocks plans p := by
  have hblocked : isSatisfiable plans c = false ↔ ∃ p ∈ c.required, blocker? plans p ≠ none := by
    rw [← Bool.not_eq_true, isSatisfiable_iff]
    simp only [not_forall, exists_prop, ne_eq]
  rw [hblocked]
  constructor
  · rintro ⟨p, hp, hblocker⟩
    obtain ⟨hp, hreq⟩ := List.mem_filter.mp hp
    have hleft := (isSome_blocker?_iff hk (hc p hp)).mp (Option.isSome_iff_ne_none.mpr hblocker)
    exact ⟨p, hp, hreq, hleft⟩
  · rintro ⟨p, hp, hreq, hleft⟩
    have hblocker := (isSome_blocker?_iff hk (hc p hp)).mpr hleft
    exact ⟨p, List.mem_filter.mpr ⟨hp, hreq⟩, Option.isSome_iff_ne_none.mp hblocker⟩

/-- Every blocked parameter has the cause that the plan for its slot gives. -/
theorem exists_plan_of_mem_blocked (hk : (plans.map (·.key)).Nodup)
    (hc : ∀ p ∈ c.parameters, p.key ∈ plans.map (·.key)) (hb : b ∈ blocked plans c) :
    ∃ plan ∈ plans, plan.key = b.key ∧ plan.LeavesOut b.cause := by
  obtain ⟨p, hp, hkey, hcause⟩ := mem_blocked.mp hb
  have hcovered := hc p (List.mem_of_mem_filter hp)
  rw [← hkey]
  exact (blocker?_eq_some_iff hk hcovered).mp hcause

/-- Over all constructors each required parameter that is left out is named in the place where it is
declared first. -/
theorem map_key_blocking (hk : (plans.map (·.key)).Nodup)
    (ht : ∀ c ∈ target.constructors, ∀ p ∈ c.parameters, p.key ∈ plans.map (·.key)) :
    (distinctBy BlockedParameter.key (target.constructors.flatMap (blocked plans))).map (·.key) =
      (distinctBy id (target.required.map Property.key)).filter (LeftOut plans ·) := by
  have hkeys : (target.constructors.flatMap (blocked plans)).map BlockedParameter.key =
      (target.required.map Property.key).filter (LeftOut plans ·) := by
    rw [TypeDescriptor.required, List.map_flatMap, List.map_flatMap, List.filter_flatMap]
    apply List.flatMap_congr
    intro c hc
    exact map_key_blocked hk (ht c hc)
  calc
    _ = distinctBy id ((target.constructors.flatMap (blocked plans)).map BlockedParameter.key) :=
      map_distinctBy BlockedParameter.key _
    _ = distinctBy id ((target.required.map Property.key).filter (LeftOut plans ·)) := by
      rw [hkeys]
    _ = _ := distinctBy_filter _ _

/-- No constructor is found exactly if none is satisfiable, and all that blocks them is told. -/
theorem choose_none_eq_error_iff :
    choose plans target none = .error e ↔
      (∀ c ∈ target.constructors, isSatisfiable plans c = false) ∧ e = noneMatching plans target := by
  rw [choose]
  cases hbest : best? plans target with
  | some b =>
    obtain ⟨hb, hsat⟩ := best?_eq_some hbest
    have hmem := List.mem_of_getElem? (List.mk_mem_zipIdx_iff_getElem?.mp hb)
    constructor
    · intro h
      cases h
    · rintro ⟨hall, _⟩
      rw [hall b.1 hmem] at hsat
      cases hsat
  | none =>
    -- a satisfiable constructor would have made for a best one
    have hall : ∀ c ∈ target.constructors, isSatisfiable plans c = false := by
      intro c hc
      by_contra hsat
      obtain ⟨i, hi⟩ := List.mem_iff_getElem?.mp hc
      have hmem : (c, i) ∈ target.constructors.zipIdx := List.mk_mem_zipIdx_iff_getElem?.mpr hi
      obtain ⟨b, hb⟩ := exists_best? hmem (by simpa using hsat)
      rw [hbest] at hb
      cases hb
    constructor
    · intro h
      exact ⟨hall, (Except.error.inj h).symm⟩
    · rintro ⟨_, rfl⟩
      rfl

theorem bySignature?_eq_none_iff :
    bySignature? target s = none ↔ ∀ c ∈ target.constructors, c.signature ≠ s := by
  rw [bySignature?, List.find?_eq_none]
  constructor
  · intro h c hc
    obtain ⟨i, hi⟩ := List.mem_iff_getElem?.mp hc
    simpa using h (c, i) (List.mk_mem_zipIdx_iff_getElem?.mpr hi)
  · intro h b hb
    have hmem := List.mem_of_getElem? (List.mk_mem_zipIdx_iff_getElem?.mp hb)
    simpa using h b.1 hmem

theorem exists_isFirstOf (h : ∃ c ∈ target.constructors, c.signature = s) :
    ∃ c i, IsFirstOf target s c i := by
  cases hfind : bySignature? target s with
  | none =>
    obtain ⟨c, hc, hsig⟩ := h
    exact absurd hsig (bySignature?_eq_none_iff.mp hfind c hc)
  | some b => exact ⟨b.1, b.2, isFirstOf_of_bySignature? hfind⟩

/-- A signature stands for its first constructor, which then has to be satisfiable. -/
theorem choose_of_isFirstOf (h : IsFirstOf target s c i) :
    choose plans target (some s) =
      if isSatisfiable plans c then .ok (c, i)
      else .error (.constructorNotSatisfiable s (blocked plans c)) := by
  rw [choose, bySignature?_eq_some_iff.mpr h]

/-- A signature is unknown exactly if no constructor has it. -/
theorem choose_eq_unknownConstructor_iff :
    choose plans target (some s) =
        .error (.unknownConstructor s (target.constructors.map (·.signature))) ↔
      ∀ c ∈ target.constructors, c.signature ≠ s := by
  constructor
  · intro h c hc hsig
    obtain ⟨d, i, hfirst⟩ := exists_isFirstOf ⟨c, hc, hsig⟩
    rw [choose_of_isFirstOf hfirst] at h
    split at h
    · cases h
    · cases h
  · intro h
    rw [choose, bySignature?_eq_none_iff.mpr h]

/-- What blocks a constructor is told in the order of its parameters. -/
theorem map_key_blocked_eq_blocks (hk : (plans.map (·.key)).Nodup)
    (hc : ∀ p ∈ c.parameters, p.key ∈ plans.map (·.key)) :
    (blocked plans c).map (·.key) = (c.parameters.filter (Blocks plans ·)).map Property.key := by
  rw [map_key_blocked hk hc, Constructor.required, List.filter_map, List.filter_filter]
  congr 1
  apply List.filter_congr
  intro p _
  rw [Bool.eq_iff_iff, Bool.and_eq_true, decide_eq_true_eq, and_comm]
  have hleft : decide (LeftOut plans p.key) = true ↔ LeftOut plans p.key := decide_eq_true_iff
  exact and_congr_right fun _ => hleft

/-- Without a signature the choice fails exactly if every constructor is blocked. -/
theorem exists_choose_none_eq_error_iff (hk : (plans.map (·.key)).Nodup)
    (ht : ∀ c ∈ target.constructors, ∀ p ∈ c.parameters, p.key ∈ plans.map (·.key)) :
    (∃ e, choose plans target none = .error e) ↔
      ∀ c ∈ target.constructors, ∃ p ∈ c.parameters, Blocks plans p := by
  simp only [choose_none_eq_error_iff]
  constructor
  · rintro ⟨_, hall, _⟩ c hc
    exact (isSatisfiable_eq_false_iff hk (ht c hc)).mp (hall c hc)
  · intro hall
    refine ⟨_, fun c hc => ?_, rfl⟩
    exact (isSatisfiable_eq_false_iff hk (ht c hc)).mpr (hall c hc)

/-- With a signature it fails exactly if the first constructor of that signature is blocked. -/
theorem exists_choose_some_eq_error_iff (hk : (plans.map (·.key)).Nodup)
    (hc : ∀ p ∈ c.parameters, p.key ∈ plans.map (·.key)) (h : IsFirstOf target s c i) :
    (∃ e, choose plans target (some s) = .error e) ↔ ∃ p ∈ c.parameters, Blocks plans p := by
  rw [choose_of_isFirstOf h, ← isSatisfiable_eq_false_iff hk hc]
  cases isSatisfiable plans c with
  | true => simp
  | false => simp

end Construction

end ObjectMapping
