import ObjectMapping.Proofs.Mapping.Growth
import ObjectMapping.Proofs.Mapping.Preference

namespace ObjectMapping.Construction

variable {plans : List PropertyPlan} {target : TypeDescriptor} {p : Property}
  {c c' : Constructor} {i i' : Nat} {s : Signature} {explicit : Option Signature}

/-- The plan for the parameter supplies a value. If there are several plans of its name and type,
the first of them is the plan for it. -/
def Supplied (plans : List PropertyPlan) (p : Property) : Prop :=
  ∃ before plan after, plans = before ++ plan :: after ∧ plan.key = p.key ∧
    (∀ other ∈ before, other.key ≠ p.key) ∧ plan.isResolved = true

theorem supplied_iff :
    Supplied plans p ↔ ∃ plan, planFor? plans p = some plan ∧ plan.isResolved = true := by
  have hkey (plan : PropertyPlan) : plan.key = (p.name, p.type) ↔ plan.key = p.key := Iff.rfl
  simp only [planFor?, List.find?_eq_some_iff_append, decide_eq_true_eq, Bool.not_eq_true',
    decide_eq_false_iff_not, hkey]
  constructor
  · rintro ⟨before, plan, after, hplans, hplan, hbefore, hres⟩
    exact ⟨plan, ⟨hplan, before, after, hplans, hbefore⟩, hres⟩
  · rintro ⟨plan, ⟨hplan, before, after, hplans, hbefore⟩, hres⟩
    exact ⟨before, plan, after, hplans, hplan, hbefore, hres⟩

/-- If no slot is planned twice, any plan that supplies a value will do. -/
theorem supplied_iff_hasValue (hk : (plans.map (·.key)).Nodup) :
    Supplied plans p ↔ HasValue plans p := by
  rw [supplied_iff, hasValue_iff hk]

instance (plans : List PropertyPlan) (p : Property) : Decidable (Supplied plans p) :=
  decidable_of_iff ((planFor? plans p).any (·.isResolved) = true)
    ((Option.any_eq_true _ _).trans supplied_iff.symm)

def Callable (plans : List PropertyPlan) (c : Constructor) : Prop :=
  ∀ p ∈ c.parameters, p.required = true → Supplied plans p

def supply (plans : List PropertyPlan) (c : Constructor) : Nat :=
  (c.parameters.filter (Supplied plans ·)).length

/-- A constructor is satisfiable exactly if it can be called. -/
theorem isSatisfiable_iff_callable : isSatisfiable plans c = true ↔ Callable plans c := by
  rw [isSatisfiable_iff]
  constructor
  · intro h p hp hreq
    exact supplied_iff.mpr (blocker?_eq_none_iff.mp (h p (List.mem_filter.mpr ⟨hp, hreq⟩)))
  · intro h p hp
    obtain ⟨hp, hreq⟩ := List.mem_filter.mp hp
    exact blocker?_eq_none_iff.mpr (supplied_iff.mp (h p hp hreq))

theorem score_eq_supply (plans : List PropertyPlan) (c : Constructor) :
    score plans c = supply plans c := by
  rw [score, supply, List.countP_eq_length_filter]
  apply congrArg List.length
  apply List.filter_congr
  intro p _
  apply Bool.eq_iff_iff.mpr
  rw [Option.any_eq_true, ← supplied_iff, decide_eq_true_eq]

/-- Of the constructors that can be called `c` takes the most values, and it is the first of those
that take as many. It is declared in place `i`. -/
structure IsOptimal (plans : List PropertyPlan) (target : TypeDescriptor) (c : Constructor)
    (i : Nat) : Prop where
  declared : target.constructors[i]? = some c
  callable : Callable plans c
  most : ∀ (j : Nat) (d : Constructor), target.constructors[j]? = some d → Callable plans d →
    supply plans d ≤ supply plans c
  earliest : ∀ (j : Nat) (d : Constructor), target.constructors[j]? = some d → Callable plans d →
    supply plans d = supply plans c → i ≤ j

structure IsFirstOf (target : TypeDescriptor) (s : Signature) (c : Constructor) (i : Nat) :
    Prop where
  declared : target.constructors[i]? = some c
  signature : c.parameters.map (·.type) = s.types
  earliest : ∀ (j : Nat) (d : Constructor), target.constructors[j]? = some d →
    d.parameters.map (·.type) = s.types → i ≤ j

theorem eq_of_declared (h : target.constructors[i]? = some c)
    (h' : target.constructors[i']? = some c') (hle : i ≤ i') (hge : i' ≤ i) : (c, i) = (c', i') := by
  have hi : i = i' := Nat.le_antisymm hle hge
  subst hi
  rw [Option.some.inj (h.symm.trans h')]

/-- There is at most one optimal constructor. -/
theorem IsOptimal.unique (h : IsOptimal plans target c i) (h' : IsOptimal plans target c' i') :
    (c, i) = (c', i') := by
  have hsupply : supply plans c = supply plans c' :=
    Nat.le_antisymm (h'.most i c h.declared h.callable) (h.most i' c' h'.declared h'.callable)
  have hle : i ≤ i' := h.earliest i' c' h'.declared h'.callable hsupply.symm
  have hge : i' ≤ i := h'.earliest i c h.declared h.callable hsupply
  exact eq_of_declared h.declared h'.declared hle hge

/-- At most one constructor is the first of a signature. -/
theorem IsFirstOf.unique (h : IsFirstOf target s c i) (h' : IsFirstOf target s c' i') :
    (c, i) = (c', i') := by
  have hle : i ≤ i' := h.earliest i' c' h'.declared h'.signature
  have hge : i' ≤ i := h'.earliest i c h.declared h.signature
  exact eq_of_declared h.declared h'.declared hle hge

theorem isOptimal_of_isPreferred (h : IsPreferred plans target (c, i)) :
    IsOptimal plans target c i := by
  constructor
  case declared => exact h.declared
  case callable => exact isSatisfiable_iff_callable.mp h.satisfiable
  case most =>
    intro j d hd hcall
    have hle := h.score_le j d hd (isSatisfiable_iff_callable.mpr hcall)
    rwa [score_eq_supply, score_eq_supply] at hle
  case earliest =>
    -- one that stands before takes fewer values
    intro j d hd hcall hsupply
    by_contra hlt
    have hfewer := h.score_lt j d hd (isSatisfiable_iff_callable.mpr hcall) (Nat.lt_of_not_le hlt)
    rw [score_eq_supply, score_eq_supply] at hfewer
    exact absurd hsupply (Nat.ne_of_lt hfewer)

theorem exists_isOptimal (h : target.constructors[i]? = some c) (hcall : Callable plans c) :
    ∃ best, best? plans target = some best ∧ IsOptimal plans target best.1 best.2 := by
  have hmem : (c, i) ∈ target.constructors.zipIdx := List.mk_mem_zipIdx_iff_getElem?.mpr h
  obtain ⟨best, hbest⟩ := exists_best? hmem (isSatisfiable_iff_callable.mpr hcall)
  exact ⟨best, hbest, isOptimal_of_isPreferred (isPreferred_of_best? hbest)⟩

/-- The best constructor is the one that is optimal. -/
theorem best?_eq_some_iff : best? plans target = some (c, i) ↔ IsOptimal plans target c i := by
  constructor
  · intro h
    exact isOptimal_of_isPreferred (isPreferred_of_best? h)
  · intro h
    obtain ⟨best, hbest, hoptimal⟩ := exists_isOptimal h.declared h.callable
    rw [hbest, h.unique hoptimal]

/-- There is an optimal constructor exactly if one can be called. -/
theorem exists_isOptimal_iff :
    (∃ c i, IsOptimal plans target c i) ↔ ∃ c ∈ target.constructors, Callable plans c := by
  constructor
  · rintro ⟨c, i, h⟩
    exact ⟨c, List.mem_of_getElem? h.declared, h.callable⟩
  · rintro ⟨c, hc, hcall⟩
    obtain ⟨i, hi⟩ := List.mem_iff_getElem?.mp hc
    obtain ⟨best, _, hoptimal⟩ := exists_isOptimal hi hcall
    exact ⟨best.1, best.2, hoptimal⟩

theorem isFirstOf_of_bySignature? (h : bySignature? target s = some (c, i)) :
    IsFirstOf target s c i := by
  obtain ⟨hsig, k, hk, hget, hbefore⟩ := List.find?_eq_some_iff_getElem.mp h
  rw [List.getElem_zipIdx, Nat.zero_add] at hget
  have hplace : k = i := congrArg Prod.snd hget
  subst hplace
  constructor
  case declared => exact List.mk_mem_zipIdx_iff_getElem?.mp (List.mem_of_find?_eq_some h)
  case signature => exact congrArg Signature.types (of_decide_eq_true hsig)
  case earliest =>
    -- the search has passed by whatever stands before
    intro j d hd hsigd
    by_contra hlt
    obtain ⟨hj, hdj⟩ := List.getElem?_eq_some_iff.mp hd
    have hpassed := hbefore j (Nat.lt_of_not_le hlt)
    rw [List.getElem_zipIdx, hdj] at hpassed
    simp [Constructor.signature, hsigd] at hpassed

theorem bySignature?_eq_some_iff :
    bySignature? target s = some (c, i) ↔ IsFirstOf target s c i := by
  constructor
  · exact isFirstOf_of_bySignature?
  · intro h
    have hmem : (c, i) ∈ target.constructors.zipIdx := List.mk_mem_zipIdx_iff_getElem?.mpr h.declared
    have hsig : c.signature = s := congrArg Signature.mk h.signature
    cases hfind : bySignature? target s with
    | none => exact absurd hsig (by simpa using List.find?_eq_none.mp hfind (c, i) hmem)
    | some first => rw [h.unique (isFirstOf_of_bySignature? hfind)]

/-- Without a signature the optimal constructor is chosen. -/
theorem choose_none_eq_ok_iff :
    choose plans target none = .ok (c, i) ↔ IsOptimal plans target c i := by
  rw [← best?_eq_some_iff, choose]
  cases best? plans target <;> simp

/-- With a signature its first constructor is chosen if it can be called. -/
theorem choose_some_eq_ok_iff :
    choose plans target (some s) = .ok (c, i) ↔ IsFirstOf target s c i ∧ Callable plans c := by
  rw [← bySignature?_eq_some_iff, ← isSatisfiable_iff_callable, choose]
  cases bySignature? target s with
  | none => simp
  | some first =>
    by_cases hsat : isSatisfiable plans first.1 = true
    · have hok : .ok first = (.ok (c, i) : Except MappingError _) ↔ first = (c, i) :=
        ⟨Except.ok.inj, congrArg _⟩
      simp only [hsat, if_true, hok, Option.some.injEq]
      constructor
      · rintro rfl
        exact ⟨rfl, hsat⟩
      · exact And.left
    · simp only [hsat]
      constructor
      · intro h
        cases h
      · rintro ⟨heq, hcall⟩
        cases heq
        exact absurd hcall hsat

theorem select_eq_ok_iff {selection : Selection} :
    select plans target explicit = .ok selection ↔
      ∃ c, choose plans target explicit = .ok (c, selection.index) ∧
        selection = assemble plans target c selection.index := by
  rw [select_eq]
  cases choose plans target explicit with
  | error e => simp [Except.map]
  | ok b =>
    obtain ⟨c, i⟩ := b
    constructor
    · intro h
      cases h
      exact ⟨c, rfl, rfl⟩
    · rintro ⟨d, hchoose, hselection⟩
      cases hchoose
      exact congrArg Except.ok hselection.symm

theorem exists_select_iff :
    (∃ selection, select plans target explicit = .ok selection) ↔
      ∃ c i, choose plans target explicit = .ok (c, i) := by
  constructor
  · rintro ⟨selection, h⟩
    obtain ⟨c, hchoose, _⟩ := select_eq_ok_iff.mp h
    exact ⟨c, selection.index, hchoose⟩
  · rintro ⟨c, i, hchoose⟩
    exact ⟨assemble plans target c i, select_eq_ok_iff.mpr ⟨c, hchoose, rfl⟩⟩

/-- Without a signature the choice succeeds exactly if some constructor can be called, and then the
optimal one is chosen. With a signature it succeeds exactly if the first constructor of that
signature can be called, and then that one is chosen whatever the others would take. -/
theorem select_optimal (plans : List PropertyPlan) (target : TypeDescriptor) :
    ((∃ selection, select plans target none = .ok selection) ↔
      ∃ c ∈ target.constructors, Callable plans c) ∧
    (∀ selection, select plans target none = .ok selection ↔
      ∃ c, IsOptimal plans target c selection.index ∧
        selection = assemble plans target c selection.index) ∧
    ∀ s,
      ((∃ selection, select plans target (some s) = .ok selection) ↔
        ∃ c i, IsFirstOf target s c i ∧ Callable plans c) ∧
      ∀ selection, select plans target (some s) = .ok selection ↔
        ∃ c, IsFirstOf target s c selection.index ∧ Callable plans c ∧
          selection = assemble plans target c selection.index := by
  refine ⟨?_, ?_, ?_⟩
  · rw [exists_select_iff, ← exists_isOptimal_iff]
    simp only [choose_none_eq_ok_iff]
  · intro selection
    simp only [select_eq_ok_iff, choose_none_eq_ok_iff]
  · intro s
    constructor
    · simp only [exists_select_iff, choose_some_eq_ok_iff]
    · intro selection
      simp only [select_eq_ok_iff, choose_some_eq_ok_iff, and_assoc]

end ObjectMapping.Construction
