import ObjectMapping.Proofs.Conversion.Soundness
import ObjectMapping.Proofs.Mapping.Failures
import ObjectMapping.Proofs.Plan.Types

namespace ObjectMapping

def TypeRef.Hereditary (P : TypeRef → Prop) : Prop :=
  ∀ t, P t → ∀ a ∈ t.arguments, P a

namespace TypeDescriptor

theorem type_mem_types_of_property {d : TypeDescriptor} {p : Property} (hp : p ∈ d.properties) :
    p.type ∈ d.types :=
  List.mem_append_left _ (List.mem_map_of_mem hp)

theorem type_mem_types_of_signature {d : TypeDescriptor} {c : Constructor}
    (hc : c ∈ d.constructors) {t : TypeRef} (ht : t ∈ c.signature.types) : t ∈ d.types :=
  List.mem_append_right _ (List.mem_flatMap.mpr ⟨c, hc, ht⟩)

theorem type_mem_types_of_slot {d : TypeDescriptor} {slot : Slot} (h : slot ∈ d.slots) :
    slot.type ∈ d.types := by
  obtain ⟨p, hp, hkey⟩ := mem_slot_keys_iff.mp (List.mem_map_of_mem (f := Slot.key) h)
  have htype : p.type = slot.type := congrArg Prod.snd hkey
  rw [← htype]
  rcases List.mem_append.mp hp with hp | hp
  · obtain ⟨c, hc, hp⟩ := List.mem_flatMap.mp hp
    exact type_mem_types_of_signature hc (List.mem_map_of_mem hp)
  · exact type_mem_types_of_property (List.mem_of_mem_filter hp)

end TypeDescriptor

namespace Resolver

variable {P : TypeRef → Prop} {r : Resolver} {levels : Nat} {s t u : TypeRef}
  {step : ConversionStep} {source target : TypeDescriptor} {plan : PropertyPlan}
  {plans : List PropertyPlan}

/-! ### Conversions -/

/-- What passes from types to their arguments passes to all types in a step. -/
theorem Converts.types (hP : TypeRef.Hereditary P) (h : r.Converts levels s t step) (hs : P s)
    (ht : P t) : ∀ u ∈ step.types, P u := by
  induction levels generalizing s t step with
  | zero =>
    intro u hu
    rcases (step.mem_types_iff).mp hu with rfl | rfl | ⟨e, he, _⟩
    · rwa [h.source_eq]
    · rwa [h.target_eq]
    · obtain ⟨inner, hinner, _⟩ := h.element he
      cases hinner
  | succ levels ih =>
    intro u hu
    rcases (step.mem_types_iff).mp hu with rfl | rfl | ⟨e, he, hu⟩
    · rwa [h.source_eq]
    · rwa [h.target_eq]
    · obtain ⟨inner, hinner, helement⟩ := h.element he
      cases hinner
      -- an element converts an argument of the one type to an argument of the other
      obtain ⟨hsources, htargets⟩ := h.wellTyped.arguments (List.ne_nil_of_mem he)
      rw [h.source_eq] at hsources
      rw [h.target_eq] at htargets
      have hsource : e.source ∈ s.arguments := hsources ▸ List.mem_map_of_mem he
      have htarget : e.target ∈ t.arguments := htargets ▸ List.mem_map_of_mem he
      exact ih helement (hP s hs _ hsource) (hP t ht _ htarget) u hu

theorem types_of_choose {nullHandling : NullHandling} {candidates : List Candidate}
    {reason : UnresolvedReason} (h : choose s t nullHandling candidates = .error reason) :
    reason.types = [s, t] := by
  unfold choose at h
  split at h
  · cases h
    rfl
  · split at h
    · cases h
    · cases h
      rfl

/-- A conversion that fails tells of the two types it was asked for. -/
theorem types_of_error {reason : UnresolvedReason}
    (h : r.resolveWithin levels s t = .error reason) : reason.types = [s, t] := by
  unfold resolveWithin at h
  split at h
  · cases h
  split at h
  · rename_i hbridge
    cases h
    unfold bridge at hbridge
    split at hbridge
    · split at hbridge
      · cases hbridge
      · cases hbridge
        rfl
    all_goals cases hbridge
  split at h
  · cases h
  split at h
  · cases h
    rfl
  · exact types_of_choose h

/-! ### Plans and results -/

theorem types_resolution (hP : TypeRef.Hereditary P) {type : TypeRef} (htype : P type)
    {origin : SlotSource} (horigin : ∀ name t byOverride,
      origin = .property name t byOverride → P t) :
    ∀ u ∈ (r.resolution type origin).types, P u := by
  cases origin with
  | property name t byOverride =>
    have ht : P t := horigin name t byOverride rfl
    rw [resolution]
    cases hstep : r.resolve t type with
    | ok step =>
      have htypes := (resolveWithin_eq_ok_iff.mp hstep).types hP ht htype
      cases byOverride with
      | true => exact htypes
      | false => exact htypes
    | error reason =>
      intro u hu
      have hu' : u ∈ [t, type] := types_of_error hstep ▸ hu
      rw [List.mem_pair] at hu'
      rcases hu' with rfl | rfl
      · exact ht
      · exact htype
  | constant | expression | ignored | unmatched =>
    intro u hu
    exact absurd hu List.not_mem_nil

variable (hP : TypeRef.Hereditary P) (hsource : ∀ t ∈ source.types, P t)
  (htarget : ∀ t ∈ target.types, P t)

include hP hsource htarget

/-- What all types of source and target share is shared by all types in the plans. -/
theorem types_of_mem_plans {decls : List OverrideDecl}
    (h : r.planDeclared source target decls = .ok plans) (hp : plan ∈ plans) :
    ∀ u ∈ plan.types, P u := by
  obtain ⟨slot, hslot, origin, horigin, rfl⟩ := exists_slot_of_mem_plans h hp
  have htype : P slot.type := htarget _ (TypeDescriptor.type_mem_types_of_slot hslot)
  refine List.forall_mem_cons.mpr ⟨htype, types_resolution hP htype ?_⟩
  rintro name t byOverride rfl
  obtain ⟨p, hfind, rfl⟩ := Matching.property?_of_sourceOf horigin
  exact hsource _ (TypeDescriptor.type_mem_types_of_property (List.mem_of_find?_eq_some hfind))

/-- All types in a result come from the types of the two descriptors. -/
theorem types_of_resolvePair {request : MappingRequest} {result : MappingResult}
    (h : r.resolvePair source target request = .ok result) : ∀ u ∈ result.types, P u := by
  obtain ⟨plans, c, i, hplans, hchoose, rfl⟩ := resolvePair_eq_ok_iff.mp h
  have hplan (plan : PropertyPlan) (hp : plan ∈ plans) : ∀ u ∈ plan.types, P u :=
    types_of_mem_plans hP hsource htarget hplans hp
  intro u hu
  rcases List.mem_append.mp hu with hu | hu
  · rcases List.mem_append.mp hu with hu | hu
    · have hc := List.mem_of_getElem? (Construction.choose_eq_ok hchoose).1
      exact htarget u (TypeDescriptor.type_mem_types_of_signature hc hu)
    · obtain ⟨e, he, hu⟩ := List.mem_flatMap.mp hu
      obtain ⟨plan, hp, _, heq⟩ := Construction.mem_assemble_properties i he
      rw [heq] at hu
      exact hplan plan hp u hu
  · obtain ⟨v, hv, hu⟩ := List.mem_flatMap.mp hu
    -- what is unresolved has the types of the plan that failed
    have hk := nodup_keys_of_planDeclared hplans
    obtain ⟨plan, hp, hkey, hfails⟩ := (Construction.mem_unresolved_assemble hk i).mp hv
    obtain ⟨_, name, hres⟩ := PropertyPlan.conversionFailure?_eq_some_iff.mp hfails
    have htypes : plan.types = v.types := by
      have htype : plan.targetType = v.type := congrArg Prod.snd hkey
      rw [PropertyPlan.types, UnresolvedProperty.types, htype, hres]
      rfl
    exact hplan plan hp u (htypes ▸ hu)

end Resolver

end ObjectMapping
