import ObjectMapping.Proofs.Mapping.Soundness
import ObjectMapping.Proofs.Override.Partition

namespace ObjectMapping

namespace OverrideSet

def last? (decls : List OverrideDecl) (name : String) : Option OverrideDecl :=
  (decls.filter fun d => d.target = name).getLast?

/-- Without conflicts the last declaration is the one in effect. -/
theorem effective?_eq_last? {decls : List OverrideDecl} (h : ∀ d ∈ decls, ¬ d.Conflicts)
    (name : String) : effective? decls name = last? decls name := by
  unfold effective? last?
  congr 1
  apply List.filter_congr
  intro d hd
  simp [h d hd]

theorem mem_of_last? {decls : List OverrideDecl} {name : String} {d : OverrideDecl}
    (h : last? decls name = some d) : d ∈ decls ∧ d.target = name := by
  have hmem := List.mem_filter.mp (List.mem_of_getLast? h)
  exact ⟨hmem.1, of_decide_eq_true hmem.2⟩

end OverrideSet

def OverrideKind.Supplies : OverrideKind → Resolution → Prop
  | .source property, res => ∃ step, res = .matchedByOverride property step
  | .constant value, res => res = .constant value
  | .expression text, res => res = .expression text
  | .ignore, _ => False

/-- The value for `name` comes from where the declaration says. Without one it comes from the source
property of that name. -/
structure Resolution.Honours (res : Resolution) (name : String) (decl? : Option OverrideDecl) :
    Prop where
  undeclared : decl? = none → ∃ step, res = .matchedByName name step
  constant : ∀ d value, decl? = some d → d.constant = some value → res = .constant value
  expression : ∀ d text, decl? = some d → d.expression = some text → res = .expression text
  source : ∀ d property, decl? = some d → d.source = some property →
    ∃ step, res = .matchedByOverride property step
  bare : ∀ d, decl? = some d → d.source = none → d.constant = none → d.expression = none →
    ∃ step, res = .matchedByOverride name step

namespace Resolver

variable {r : Resolver} {source target : TypeDescriptor} {decls : List OverrideDecl}
  {overrides : OverrideSet} {slot : Slot} {s : SlotSource} {plan : PropertyPlan}
  {plans : List PropertyPlan}

/-- A slot that gets a value from a source property gets it by way of a step. -/
theorem resolution_property {sourceType : TypeRef} {property : String} {byOverride : Bool}
    (hres : (r.plan ⟨slot, .property property sourceType byOverride⟩).isResolved = true) :
    ∃ step, r.resolution slot.type (.property property sourceType byOverride) =
      if byOverride then .matchedByOverride property step else .matchedByName property step := by
  rw [plan, PropertyPlan.isResolved] at hres
  simp only [resolution] at hres ⊢
  cases hstep : r.resolve sourceType slot.type with
  | ok step => exact ⟨step, rfl⟩
  | error reason => simp [hstep] at hres

/-- A slot with an override gets what this makes of it. -/
theorem supplies_of_find? {kind : OverrideKind} (hkind : overrides.find? slot.name = some kind)
    (hs : Matching.sourceOf source overrides slot = .ok s)
    (hres : (r.plan ⟨slot, s⟩).isResolved = true) :
    kind.Supplies (r.resolution slot.type s) := by
  rw [Matching.sourceOf, hkind] at hs
  cases kind with
  | constant value | expression text =>
    cases hs
    rfl
  | ignore =>
    cases hs
    cases hres
  | source name =>
    simp only at hs
    split at hs
    · rename_i p hp
      have hname : p.name = name := by simpa using List.find?_some hp
      cases hs
      rw [← hname]
      exact resolution_property hres
    · cases hs

/-- A slot without an override gets the property of its own name. -/
theorem matchedByName_of_find? (hnone : overrides.find? slot.name = none)
    (hs : Matching.sourceOf source overrides slot = .ok s)
    (hres : (r.plan ⟨slot, s⟩).isResolved = true) :
    ∃ step, r.resolution slot.type s = .matchedByName slot.name step := by
  rw [Matching.sourceOf, hnone] at hs
  simp only at hs
  split at hs
  · rename_i p hp
    have hname : p.name = slot.name := by simpa using List.find?_some hp
    cases hs
    rw [← hname]
    exact resolution_property hres
  · cases hs
    cases hres

/-- What a slot that gets a value is planned to read or take, without conflicts among the
declarations. -/
theorem honours_of_mem_plans (h : r.planDeclared source target decls = .ok plans)
    (hp : plan ∈ plans) (hres : plan.isResolved = true) :
    (∀ d, OverrideSet.last? decls plan.target = some d → d.ignore = false) ∧
      plan.resolution.Honours plan.target (OverrideSet.last? decls plan.target) := by
  obtain ⟨hconflicts, _⟩ := planDeclared_eq_ok_iff.mp h
  have hsound := OverrideSet.conflicts_partition_eq_nil_iff.mp hconflicts
  obtain ⟨slot, _, s, hs, rfl⟩ := exists_slot_of_mem_plans h hp
  have hfind := OverrideSet.find?_partition decls slot.name
  rw [OverrideSet.effective?_eq_last? hsound] at hfind
  -- with a declaration, its effect decides
  have hsupplies (d : OverrideDecl) (hd : OverrideSet.last? decls slot.name = some d) :
      d.effect.Supplies (r.resolution slot.type s) := by
    rw [hd] at hfind
    exact supplies_of_find? hfind hs hres
  have hkept (d : OverrideDecl) (hd : OverrideSet.last? decls slot.name = some d) :
      ¬ d.Conflicts ∧ d.ignore = false := by
    refine ⟨hsound d (OverrideSet.mem_of_last? hd).1, ?_⟩
    by_contra hi
    have hnone := hsupplies d hd
    rw [OverrideDecl.effect_of_ignore (Bool.of_not_eq_false hi)] at hnone
    exact hnone
  refine ⟨fun d hd => (hkept d hd).2, ?_⟩
  change (r.resolution slot.type s).Honours slot.name (OverrideSet.last? decls slot.name)
  constructor
  case undeclared =>
    intro hnone
    rw [hnone] at hfind
    exact matchedByName_of_find? hfind hs hres
  case constant =>
    intro d value hd hv
    have hvalue := hsupplies d hd
    rwa [OverrideDecl.effect_of_constant (hkept d hd).2 hv] at hvalue
  case expression =>
    intro d text hd ht
    have hvalue := hsupplies d hd
    rwa [OverrideDecl.effect_of_expression (hkept d hd).1 (hkept d hd).2 ht] at hvalue
  case source =>
    intro d property hd hsource
    have hvalue := hsupplies d hd
    rwa [OverrideDecl.effect_of_source (hkept d hd).1 (hkept d hd).2 hsource] at hvalue
  case bare =>
    intro d hd hsource hc he
    have hvalue := hsupplies d hd
    rwa [OverrideDecl.effect_of_bare (hkept d hd).2 hsource hc he,
      (OverrideSet.mem_of_last? hd).2] at hvalue

/-- Overrides are honoured to the letter. A name whose last declaration leaves it alone is not
populated, and every other value comes from where the last declaration for its name says. Source
properties are read as they are declared. -/
theorem resolvePair_honours (r : Resolver) (source target : TypeDescriptor)
    (request : MappingRequest) (result : MappingResult)
    (h : r.resolvePair source target request = .ok result) :
    ∀ name,
      (∀ d, OverrideSet.last? request.overrides name = some d → d.ignore = true →
        ∀ e ∈ result.properties, e.target ≠ name) ∧
      ∀ e ∈ result.properties, e.target = name →
        e.resolution.Honours name (OverrideSet.last? request.overrides name) ∧
        ∀ property step, e.resolution.Reads property step →
          ∃ p, source.property? property = some p ∧ r.resolve p.type e.targetType = .ok step := by
  intro name
  -- what an entry has to honour is told by its own name
  have hentry : ∀ e ∈ result.properties,
      (∀ d, OverrideSet.last? request.overrides e.target = some d → d.ignore = false) ∧
        e.resolution.Honours e.target (OverrideSet.last? request.overrides e.target) := by
    intro e he
    obtain ⟨plans, c, i, hplans, _, rfl⟩ := resolvePair_eq_ok_iff.mp h
    obtain ⟨plan, hplan, hres, heq⟩ := Construction.mem_assemble_properties i he
    have hhonours := honours_of_mem_plans hplans hplan hres
    rw [heq]
    exact hhonours
  constructor
  · rintro d hd hi e he rfl
    rw [(hentry e he).1 d hd] at hi
    cases hi
  · rintro e he rfl
    exact ⟨(hentry e he).2, fun _ _ hreads => resolve_of_reads_of_mem h he hreads⟩

end Resolver

namespace Sample

def declaredRequest : MappingRequest where
  source := "Order"
  target := "Invoice"
  overrides :=
    [{ target := "label", constant := some "draft" },
      { target := "id" },
      { target := "note", source := some "note", constant := some "none", ignore := true },
      { target := "label", expression := some "it.id.text" }]

def declaredResult : MappingResult where
  sourceType := "Order"
  targetType := "Invoice"
  constructor := ⟨[text, text]⟩
  constructorIndex := 1
  properties :=
    [{ target := "id", targetType := text,
       resolution := .matchedByOverride "id" (toText long text .none) },
      { target := "label", targetType := text, resolution := .expression "it.id.text" },
      { target := "items", targetType := listOf text.toNullable,
        resolution := .matchedByName "items" itemsStep, phase := .postConstruction }]
  unresolved := []

/-- The later declaration for the label counts, and the note is left alone. -/
theorem declarations_honoured :
    Resolver.resolvePair ⟨.standard, false⟩ order invoice declaredRequest = .ok declaredResult ∧
      (∀ e ∈ declaredResult.properties, e.target ≠ "note") ∧
      ∀ e ∈ declaredResult.properties, e.target = "label" →
        e.resolution.Honours "label"
          (some { target := "label", expression := some "it.id.text" }) := by
  have h : Resolver.resolvePair ⟨.standard, false⟩ order invoice declaredRequest =
      .ok declaredResult := by rfl
  have hhonours := Resolver.resolvePair_honours ⟨.standard, false⟩ order invoice declaredRequest
    declaredResult h
  have hlabel : OverrideSet.last? declaredRequest.overrides "label" =
      some { target := "label", expression := some "it.id.text" } := by rfl
  refine ⟨h, (hhonours "note").1 _ (by rfl) rfl, ?_⟩
  intro e he hname
  rw [← hlabel]
  exact ((hhonours "label").2 e he hname).1

end Sample

end ObjectMapping
