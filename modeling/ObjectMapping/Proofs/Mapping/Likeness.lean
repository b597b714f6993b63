import ObjectMapping.Proofs.Conversion.Registration
import ObjectMapping.Proofs.Mapping.Selection

/-!
Plans and results that are alike: the same but for the places at which converters are registered
and the order in which tied converters are named. A constructor is chosen and called in the same
way for plans that are alike.
-/

namespace ObjectMapping

inductive Resolution.Alike : Resolution → Resolution → Prop
  | same (res : Resolution) : Alike res res
  | matchedByName (source : String) {step step' : ConversionStep} (h : step.Alike step') :
      Alike (.matchedByName source step) (.matchedByName source step')
  | matchedByOverride (source : String) {step step' : ConversionStep} (h : step.Alike step') :
      Alike (.matchedByOverride source step) (.matchedByOverride source step')
  | unresolved (source : Option String) {reason reason' : UnresolvedReason}
      (h : reason.Alike reason') : Alike (.unresolved source reason) (.unresolved source reason')

structure PropertyPlan.Alike (plan plan' : PropertyPlan) : Prop where
  target : plan.target = plan'.target
  targetType : plan.targetType = plan'.targetType
  resolution : plan.resolution.Alike plan'.resolution
  phase : plan.phase = plan'.phase

structure UnresolvedProperty.Alike (u u' : UnresolvedProperty) : Prop where
  name : u.name = u'.name
  type : u.type = u'.type
  reason : u.reason.Alike u'.reason

inductive Blocker.Alike : Blocker → Blocker → Prop
  | ignored : Alike .ignored .ignored
  | unresolved {reason reason' : UnresolvedReason} (h : reason.Alike reason') :
      Alike (.unresolved reason) (.unresolved reason')

structure BlockedParameter.Alike (b b' : BlockedParameter) : Prop where
  name : b.name = b'.name
  type : b.type = b'.type
  cause : b.cause.Alike b'.cause

inductive MappingError.Alike : MappingError → MappingError → Prop
  | same (error : MappingError) : Alike error error
  | noMatchingConstructor (targetType : String) {blocking blocking' : List BlockedParameter}
      (h : List.Forall₂ BlockedParameter.Alike blocking blocking') :
      Alike (.noMatchingConstructor targetType blocking)
        (.noMatchingConstructor targetType blocking')
  | constructorNotSatisfiable (signature : Signature)
      {unsatisfied unsatisfied' : List BlockedParameter}
      (h : List.Forall₂ BlockedParameter.Alike unsatisfied unsatisfied') :
      Alike (.constructorNotSatisfiable signature unsatisfied)
        (.constructorNotSatisfiable signature unsatisfied')

structure Selection.Alike (s s' : Selection) : Prop where
  index : s.index = s'.index
  signature : s.signature = s'.signature
  properties : List.Forall₂ PropertyPlan.Alike s.properties s'.properties
  unresolved : List.Forall₂ UnresolvedProperty.Alike s.unresolved s'.unresolved

structure MappingFailure.Alike (f f' : MappingFailure) : Prop where
  sourceType : f.sourceType = f'.sourceType
  targetType : f.targetType = f'.targetType
  errors : List.Forall₂ MappingError.Alike f.errors f'.errors

structure MappingResult.Alike (r r' : MappingResult) : Prop where
  sourceType : r.sourceType = r'.sourceType
  targetType : r.targetType = r'.targetType
  constructor : r.constructor = r'.constructor
  constructorIndex : r.constructorIndex = r'.constructorIndex
  properties : List.Forall₂ PropertyPlan.Alike r.properties r'.properties
  unresolved : List.Forall₂ UnresolvedProperty.Alike r.unresolved r'.unresolved

theorem UnresolvedReason.Alike.isConversionFailure {reason reason' : UnresolvedReason}
    (h : reason.Alike reason') : reason.isConversionFailure = reason'.isConversionFailure := by
  cases h <;> rfl

namespace PropertyPlan

variable {plan plan' : PropertyPlan}

theorem Alike.key (h : plan.Alike plan') : plan.key = plan'.key := by
  rw [PropertyPlan.key, PropertyPlan.key, h.target, h.targetType]

theorem Alike.isResolved (h : plan.Alike plan') : plan.isResolved = plan'.isResolved := by
  have hres := h.resolution
  unfold PropertyPlan.isResolved
  generalize plan.resolution = res at hres
  generalize plan'.resolution = res' at hres
  cases hres <;> rfl

theorem Alike.reason? (h : plan.Alike plan') :
    Option.Rel UnresolvedReason.Alike plan.reason? plan'.reason? := by
  have hres := h.resolution
  unfold PropertyPlan.reason?
  generalize plan.resolution = res at hres
  generalize plan'.resolution = res' at hres
  cases hres with
  | same res =>
    cases res with
    | unresolved source reason => exact .some (.refl reason)
    | matchedByName | matchedByOverride | constant | expression | ignored => exact .none
  | matchedByName => exact .none
  | matchedByOverride => exact .none
  | unresolved source h => exact .some h

theorem Alike.conversionFailure? (h : plan.Alike plan') :
    Option.Rel UnresolvedReason.Alike plan.conversionFailure? plan'.conversionFailure? := by
  unfold PropertyPlan.conversionFailure?
  match plan.reason?, plan'.reason?, h.reason? with
  | _, _, .none => exact .none
  | some reason, some reason', .some hreason =>
    have hsame := hreason.isConversionFailure
    cases hfailure : reason.isConversionFailure with
    | false =>
      rw [Option.filter_some_neg (by simp [hfailure]),
        Option.filter_some_neg (by simp [← hsame, hfailure])]
      exact .none
    | true =>
      rw [Option.filter_some_pos hfailure, Option.filter_some_pos (hsame ▸ hfailure)]
      exact .some hreason

end PropertyPlan

theorem distinctBy_rel {α κ : Type} [DecidableEq κ] {key : α → κ} {R : α → α → Prop}
    (hkey : ∀ {a b}, R a b → key a = key b) {l l' : List α} (h : List.Forall₂ R l l') :
    List.Forall₂ R (distinctBy key l) (distinctBy key l') := by
  induction h with
  | nil => exact .nil
  | cons hab _ ih =>
    refine .cons hab (List.rel_filter ?_ ih)
    intro c d hcd
    simp [hkey hab, hkey hcd]

namespace Construction

variable {plans plans' : List PropertyPlan} {c : Constructor} {target : TypeDescriptor}
  {explicit : Option Signature}

theorem planFor?_alike (h : List.Forall₂ PropertyPlan.Alike plans plans') (p : Property) :
    Option.Rel PropertyPlan.Alike (planFor? plans p) (planFor? plans' p) := by
  induction h with
  | nil => exact .none
  | @cons a b _ _ hab _ ih =>
    by_cases ha : a.key = (p.name, p.type)
    · have hb : b.key = (p.name, p.type) := hab.key ▸ ha
      rw [planFor?, planFor?, List.find?_cons_of_pos (by simpa using ha),
        List.find?_cons_of_pos (by simpa using hb)]
      exact .some hab
    · have hb : b.key ≠ (p.name, p.type) := hab.key ▸ ha
      rw [planFor?, planFor?, List.find?_cons_of_neg (by simpa using ha),
        List.find?_cons_of_neg (by simpa using hb)]
      exact ih

theorem blocker?_alike (h : List.Forall₂ PropertyPlan.Alike plans plans') (p : Property) :
    Option.Rel Blocker.Alike (blocker? plans p) (blocker? plans' p) := by
  unfold blocker?
  match planFor? plans p, planFor? plans' p, planFor?_alike h p with
  | _, _, .none => exact .some (.unresolved (.refl _))
  | some plan, some plan', .some hplan =>
    have hres := hplan.resolution
    simp only
    generalize plan.resolution = res at hres
    generalize plan'.resolution = res' at hres
    cases hres with
    | same res =>
      cases res with
      | ignored => exact .some .ignored
      | unresolved source reason => exact .some (.unresolved (.refl reason))
      | matchedByName | matchedByOverride | constant | expression => exact .none
    | matchedByName => exact .none
    | matchedByOverride => exact .none
    | unresolved source h => exact .some (.unresolved h)

theorem blocked_alike (h : List.Forall₂ PropertyPlan.Alike plans plans') (c : Constructor) :
    List.Forall₂ BlockedParameter.Alike (blocked plans c) (blocked plans' c) := by
  refine List.rel_filterMap ?_ (List.forall₂_same.mpr fun p _ => rfl)
  rintro p _ rfl
  beta_reduce
  match blocker? plans p, blocker? plans' p, blocker?_alike h p with
  | _, _, .none => exact .none
  | _, _, .some hcause => exact .some ⟨rfl, rfl, hcause⟩

theorem isSatisfiable_alike (h : List.Forall₂ PropertyPlan.Alike plans plans') :
    isSatisfiable plans = isSatisfiable plans' := by
  funext c
  have hblocked := blocked_alike h c
  rw [isSatisfiable, isSatisfiable]
  generalize blocked plans c = bs, blocked plans' c = bs' at hblocked ⊢
  cases hblocked with
  | nil => rfl
  | cons => rfl

theorem score_alike (h : List.Forall₂ PropertyPlan.Alike plans plans') :
    score plans = score plans' := by
  funext c
  refine List.countP_congr fun p _ => ?_
  match planFor? plans p, planFor? plans' p, planFor?_alike h p with
  | _, _, .none => exact Iff.rfl
  | _, _, .some hplan => simp [hplan.isResolved]

/-- The best constructor is the same for plans that are alike. -/
theorem best?_alike (h : List.Forall₂ PropertyPlan.Alike plans plans') :
    best? plans target = best? plans' target := by
  have hbetter : better plans = better plans' := by
    funext c later
    cases later with
    | none => rfl
    | some later => rw [better, better, score_alike h]
  rw [best?, best?, isSatisfiable_alike h, hbetter]

theorem noneMatching_alike (h : List.Forall₂ PropertyPlan.Alike plans plans') :
    (noneMatching plans target).Alike (noneMatching plans' target) := by
  apply MappingError.Alike.noMatchingConstructor
  apply distinctBy_rel
  · intro a b hab
    rw [BlockedParameter.key, BlockedParameter.key, hab.name, hab.type]
  · refine List.rel_flatMap (List.forall₂_same.mpr fun c _ => rfl) ?_
    rintro c _ rfl
    exact blocked_alike h c

theorem choose_alike (h : List.Forall₂ PropertyPlan.Alike plans plans') :
    Agree MappingError.Alike Eq (choose plans target explicit) (choose plans' target explicit) := by
  cases explicit with
  | none =>
    rw [choose, choose, best?_alike h]
    cases best? plans' target with
    | none => exact .error (noneMatching_alike h)
    | some best => exact .ok rfl
  | some signature =>
    rw [choose, choose, isSatisfiable_alike h]
    cases bySignature? target signature with
    | none => exact .error (.same _)
    | some named =>
      cases hsat : isSatisfiable plans' named.1 with
      | false =>
        have herror := MappingError.Alike.constructorNotSatisfiable signature
          (blocked_alike h named.1)
        simpa [hsat] using .error herror
      | true => simpa [hsat] using .ok rfl

theorem inPhase_alike (phase : AssignmentPhase) (h : List.Forall₂ PropertyPlan.Alike plans plans') :
    List.Forall₂ PropertyPlan.Alike (inPhase phase plans) (inPhase phase plans') := by
  refine List.rel_map ?_ (List.rel_filter ?_ h)
  · intro a b hab
    exact ⟨hab.target, hab.targetType, hab.resolution, rfl⟩
  · intro a b hab
    simp [hab.isResolved]

theorem unresolvedOf_alike (h : List.Forall₂ PropertyPlan.Alike plans plans') :
    List.Forall₂ UnresolvedProperty.Alike (unresolvedOf plans) (unresolvedOf plans') := by
  refine List.rel_filterMap ?_ h
  intro a b hab
  beta_reduce
  match a.conversionFailure?, b.conversionFailure?, hab.conversionFailure? with
  | _, _, .none => exact .none
  | _, _, .some hreason => exact .some ⟨hab.target, hab.targetType, hreason⟩

theorem filterMap_planFor?_alike (h : List.Forall₂ PropertyPlan.Alike plans plans')
    (ps : List Property) :
    List.Forall₂ PropertyPlan.Alike (ps.filterMap (planFor? plans))
      (ps.filterMap (planFor? plans')) := by
  refine List.rel_filterMap ?_ (List.forall₂_same.mpr fun p _ => rfl)
  rintro p _ rfl
  exact planFor?_alike h p

theorem map_key_of_alike {us us' : List UnresolvedProperty}
    (h : List.Forall₂ UnresolvedProperty.Alike us us') :
    us.map UnresolvedProperty.key = us'.map UnresolvedProperty.key := by
  induction h with
  | nil => rfl
  | cons hu _ ih => rw [List.map_cons, List.map_cons, ih, UnresolvedProperty.key,
      UnresolvedProperty.key, hu.name, hu.type]

/-- What is put together from alike plans is alike. -/
theorem assemble_alike (h : List.Forall₂ PropertyPlan.Alike plans plans') (c : Constructor)
    (i : Nat) : (assemble plans target c i).Alike (assemble plans' target c i) := by
  have harguments := filterMap_planFor?_alike h c.parameters
  have hassignments := filterMap_planFor?_alike h (openProperties target c)
  have hunpopulated := unresolvedOf_alike (List.rel_append harguments hassignments)
  constructor
  case index => rfl
  case signature => rfl
  case properties =>
    exact List.rel_append (inPhase_alike .constructor harguments)
      (inPhase_alike .postConstruction hassignments)
  case unresolved =>
    refine List.rel_append hunpopulated (unresolvedOf_alike (List.rel_filter ?_ h))
    intro a b hab
    simp [map_key_of_alike hunpopulated, hab.key]

theorem select_alike (h : List.Forall₂ PropertyPlan.Alike plans plans') :
    Agree MappingError.Alike Selection.Alike (select plans target explicit)
      (select plans' target explicit) := by
  rw [select_eq, select_eq]
  match choose plans target explicit, choose plans' target explicit, choose_alike h with
  | _, _, .error he => exact .error he
  | .ok c, _, .ok rfl => exact .ok (assemble_alike h c.1 c.2)

end Construction

end ObjectMapping
