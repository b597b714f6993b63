import ObjectMapping.Proofs.Mapping.Errors
import ObjectMapping.Proofs.Mapping.Failures
import ObjectMapping.Proofs.Mapping.Growth
import ObjectMapping.Proofs.Mapping.Preference
import ObjectMapping.Proofs.Mapping.Soundness

/-!
Mappings between types that agree. If the source has all that the target needs, each under the same
name and with the very same type, then the longest constructor is called and every value is taken
over as it is, whatever converters there are.
-/

namespace ObjectMapping

/-- For all that the target takes the source has a property of the same name, and the first of that
name has the same type. -/
def TypeDescriptor.Covers (source target : TypeDescriptor) : Prop :=
  ∀ p ∈ target.parameters ++ target.mutableProperties,
    ∃ q, source.property? p.name = some q ∧ q.type = p.type

def Property.takenOver (phase : AssignmentPhase) (p : Property) : PropertyPlan where
  target := p.name
  targetType := p.type
  resolution := .matchedByName p.name (.direct p.type p.type .none)
  phase := phase

namespace Resolver

variable {r : Resolver} {source target : TypeDescriptor} {plans : List PropertyPlan}

/-- A value stays as it is between equal types. -/
theorem resolve_self (r : Resolver) (t : TypeRef) : r.resolve t t = .ok (.direct t t .none) :=
  resolveWithin_eq_ok_iff.mpr (.same maxLevels t)

/-- Without overrides nothing can be wrong with them. -/
theorem exists_planDeclared_nil (r : Resolver) (source target : TypeDescriptor) :
    ∃ plans, r.planDeclared source target [] = .ok plans := by
  cases h : r.planDeclared source target [] with
  | ok plans => exact ⟨plans, rfl⟩
  | error errors =>
    obtain ⟨hne, rfl⟩ := planDeclared_eq_error_iff.mp h
    obtain ⟨d, hd, _⟩ | ⟨slot, _, name, hname⟩ := MappingRequest.flaws_ne_nil_iff.mp hne
    · cases hd
    · cases hname

/-- If the source covers the target, every value is taken over as it is. -/
theorem eq_takenOver_of_covers (hcovers : source.Covers target)
    (hplans : r.planDeclared source target [] = .ok plans) {p : Property}
    (hp : p ∈ target.parameters ++ target.mutableProperties) :
    Construction.planFor? plans p = some (p.takenOver .constructor) := by
  have hkeys := map_key_of_planDeclared hplans
  have hkey : p.key ∈ plans.map (·.key) := by
    rw [hkeys]
    exact TypeDescriptor.mem_slot_keys_iff.mpr ⟨p, hp, rfl⟩
  obtain ⟨plan, hplan, hkey⟩ := List.mem_map.mp hkey
  have hfound := (Construction.planFor?_eq_some_iff (nodup_keys_of_planDeclared hplans)).mpr
    ⟨hplan, hkey⟩
  obtain ⟨slot, _, s, hs, rfl⟩ := exists_slot_of_mem_plans hplans hplan
  have hname : slot.name = p.name := congrArg Prod.fst hkey
  have htype : slot.type = p.type := congrArg Prod.snd hkey
  obtain ⟨q, hq, hqtype⟩ := hcovers p hp
  have hqname : q.name = p.name := by simpa using List.find?_some hq
  -- no override is in effect, so the slot is matched by name
  have hsource : s = .property p.name p.type false := by
    rw [Matching.sourceOf, OverrideSet.find?_partition, hname, hq] at hs
    change Except.ok (SlotSource.property q.name q.type false) = _ at hs
    rw [hqname, hqtype] at hs
    exact (Except.ok.inj hs).symm
  have hresolution : r.resolution slot.type s = (p.takenOver .constructor).resolution := by
    simp only [hsource, htype, resolution, resolve_self]
    rfl
  rw [hfound, plan, hresolution, hname, htype]
  rfl

end Resolver

namespace Construction

variable {source target : TypeDescriptor} {plans : List PropertyPlan} {c : Constructor}

def TakesOver (plans : List PropertyPlan) (ps : List Property) : Prop :=
  ∀ p ∈ ps, planFor? plans p = some (p.takenOver .constructor)

theorem TakesOver.filterMap {ps : List Property} (h : TakesOver plans ps) :
    ps.filterMap (planFor? plans) = ps.map (Property.takenOver .constructor) := by
  rw [← List.filterMap_eq_map]
  exact List.filterMap_congr h

theorem TakesOver.inPhase {ps : List Property} (h : TakesOver plans ps) (phase : AssignmentPhase) :
    inPhase phase (ps.filterMap (planFor? plans)) = ps.map (Property.takenOver phase) := by
  have hall : ∀ plan ∈ ps.map (Property.takenOver .constructor), plan.isResolved = true := by
    intro plan hplan
    obtain ⟨p, _, rfl⟩ := List.mem_map.mp hplan
    rfl
  rw [h.filterMap, Construction.inPhase, List.filter_eq_self.mpr hall, List.map_map]
  rfl

/-- A constructor is satisfiable if all its parameters are taken over. -/
theorem TakesOver.isSatisfiable (h : TakesOver plans c.parameters) :
    isSatisfiable plans c = true := by
  apply isSatisfiable_iff.mpr
  intro p hp
  exact blocker?_eq_none_iff.mpr ⟨_, h p (List.mem_of_mem_filter hp), rfl⟩

theorem exists_best?_of_forall (hne : target.constructors ≠ [])
    (h : ∀ c ∈ target.constructors, Construction.isSatisfiable plans c = true) :
    ∃ b, best? plans target = some b := by
  obtain ⟨first, rest, hfirst⟩ := List.exists_cons_of_ne_nil hne
  have hmem : first ∈ target.constructors := hfirst ▸ List.mem_cons_self
  have hzip : (first, 0) ∈ target.constructors.zipIdx := by
    rw [List.mk_mem_zipIdx_iff_getElem?, hfirst]
    rfl
  exact exists_best? hzip (h first hmem)

/-- A constructor takes all values it can if all its parameters are taken over. -/
theorem TakesOver.score (h : TakesOver plans c.parameters) :
    score plans c = c.parameters.length := by
  apply List.countP_eq_length.mpr
  intro p hp
  rw [h p hp]
  rfl

end Construction

namespace Resolver

open Construction

variable {r : Resolver} {source target : TypeDescriptor} {plans : List PropertyPlan}

theorem takesOver_of_covers (hcovers : source.Covers target)
    (hplans : r.planDeclared source target [] = .ok plans) {ps : List Property}
    (hps : ps ⊆ target.parameters ++ target.mutableProperties) : TakesOver plans ps :=
  fun _ hp => eq_takenOver_of_covers hcovers hplans (hps hp)

/-- No slot fails: each has a plan that takes over a property. -/
theorem unresolved_of_covers (hcovers : source.Covers target)
    (hplans : r.planDeclared source target [] = .ok plans) (c : Constructor) (i : Nat) :
    (assemble plans target c i).unresolved = [] := by
  have hk := nodup_keys_of_planDeclared hplans
  apply List.eq_nil_iff_forall_not_mem.mpr
  intro u hu
  obtain ⟨plan, hplan, _, hfails⟩ := (mem_unresolved_assemble hk i).mp hu
  have hkey : plan.key ∈ target.slots.map Slot.key := by
    rw [← map_key_of_planDeclared hplans]
    exact List.mem_map_of_mem hplan
  obtain ⟨p, hp, hpkey⟩ := TypeDescriptor.mem_slot_keys_iff.mp hkey
  have hfound := (planFor?_eq_some_iff hk).mpr ⟨hplan, hpkey.symm⟩
  rw [eq_takenOver_of_covers hcovers hplans hp] at hfound
  cases hfound
  cases hfails

/-- If the source has all that the target needs, a mapping without overrides succeeds. The first of
the longest constructors is called, and it and the mutable properties it leaves open take over the
source properties of their names as they are. -/
theorem resolvePair_identity (r : Resolver) (source target : TypeDescriptor)
    (request : MappingRequest) (hoverrides : request.overrides = [])
    (hconstructor : request.constructor = none) (hne : target.constructors ≠ [])
    (hcovers : source.Covers target) :
    ∃ result c, r.resolvePair source target request = .ok result ∧
      target.constructors[result.constructorIndex]? = some c ∧
      result.constructor = c.signature ∧
      (∀ (i : Nat) (c' : Constructor), target.constructors[i]? = some c' →
        c'.parameters.length ≤ c.parameters.length ∧
        (i < result.constructorIndex → c'.parameters.length < c.parameters.length)) ∧
      result.properties = c.parameters.map (Property.takenOver .constructor) ++
        (target.properties.filter fun p => p.mutable ∧ p.name ∉ c.parameters.map (·.name)).map
          (Property.takenOver .postConstruction) ∧
      result.unresolved = [] := by
  obtain ⟨plans, hplans⟩ := exists_planDeclared_nil r source target
  have hparameters : ∀ c ∈ target.constructors, TakesOver plans c.parameters := by
    intro c hc
    apply takesOver_of_covers hcovers hplans
    intro p hp
    exact List.mem_append_left _ (List.mem_flatMap.mpr ⟨c, hc, hp⟩)
  -- every constructor gets all of its parameters, so the longest of them gets the most values
  obtain ⟨⟨c, i⟩, hbest⟩ := exists_best?_of_forall hne fun c hc => (hparameters c hc).isSatisfiable
  have hpreferred := isPreferred_of_best? hbest
  have hc := List.mem_of_getElem? hpreferred.declared
  have hchoose : Construction.choose plans target request.constructor = .ok (c, i) := by
    rw [hconstructor, Construction.choose, hbest]
  refine ⟨(assemble plans target c i).result source target, c, ?_, hpreferred.declared, rfl, ?_, ?_,
    unresolved_of_covers hcovers hplans c i⟩
  · rw [← hoverrides] at hplans
    exact resolvePair_eq_ok_iff.mpr ⟨plans, c, i, hplans, hchoose, rfl⟩
  · intro j c' hj
    have htakes := hparameters c' (List.mem_of_getElem? hj)
    have hle := hpreferred.score_le j c' hj htakes.isSatisfiable
    have hlt := hpreferred.score_lt j c' hj htakes.isSatisfiable
    -- a score is the number of parameters here
    rw [htakes.score, (hparameters c hc).score] at hle hlt
    exact ⟨hle, hlt⟩
  · have hopen : TakesOver plans (openProperties target c) := by
      apply takesOver_of_covers hcovers hplans
      intro p hp
      exact List.mem_append_right _ (List.mem_of_mem_filter hp)
    change inPhase .constructor _ ++ inPhase .postConstruction _ = _
    rw [(hparameters c hc).inPhase, hopen.inPhase, openProperties_eq]

end Resolver

namespace Sample

def greedy : Registry :=
  Registry.standard.register (.pattern "Anything" .any .any 0)

def copy : TypeDescriptor where
  name := "Copy"
  properties := [{ name := "note", type := text.toNullable, mutable := true }]
  constructors :=
    [⟨[{ name := "id", type := long }]⟩,
      ⟨[{ name := "id", type := long }, { name := "items", type := listOf long.toNullable }]⟩,
      ⟨[{ name := "items", type := listOf long.toNullable }, { name := "id", type := long }]⟩]

/-- An order is copied as it is, although there is a converter for everything. -/
theorem copied_as_is :
    order.Covers copy ∧
      ∃ result c,
        Resolver.resolvePair ⟨greedy, true⟩ order copy { source := "Order", target := "Copy" } =
          .ok result ∧
        copy.constructors[result.constructorIndex]? = some c ∧
        result.properties = c.parameters.map (Property.takenOver .constructor) ++
          (copy.properties.filter fun p => p.mutable ∧ p.name ∉ c.parameters.map (·.name)).map
            (Property.takenOver .postConstruction) ∧
        result.unresolved = [] := by
  have hcovers : order.Covers copy := by
    intro p hp
    have hcases : p.name = "id" ∧ p.type = long ∨
        p.name = "items" ∧ p.type = listOf long.toNullable ∨
        p.name = "note" ∧ p.type = text.toNullable := by
      revert p
      decide
    rcases hcases with ⟨hname, htype⟩ | ⟨hname, htype⟩ | ⟨hname, htype⟩
    all_goals
      rw [hname, htype]
      exact ⟨_, rfl, rfl⟩
  obtain ⟨result, c, hresult, hc, _, _, hproperties, hunresolved⟩ :=
    Resolver.resolvePair_identity ⟨greedy, true⟩ order copy { source := "Order", target := "Copy" }
      rfl rfl nofun hcovers
  exact ⟨hcovers, result, c, hresult, hc, hproperties, hunresolved⟩

end Sample

end ObjectMapping
