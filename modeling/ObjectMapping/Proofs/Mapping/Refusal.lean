import ObjectMapping.Proofs.Mapping.Blockers
import ObjectMapping.Proofs.Mapping.Errors

/-!
Failures by constructors. Once all slots are planned, a mapping fails exactly if the constructors
that come into question have a required parameter whose slot gets no value, and the failure names
all of these parameters, each with the cause that its plan gives.
-/

namespace ObjectMapping

/-- The last declaration for the name, of those without conflict, leaves it alone. -/
def OverrideSet.Ignores (decls : List OverrideDecl) (name : String) : Prop :=
  ∃ d, effective? decls name = some d ∧ d.ignore = true

structure BlockedParameter.Explained (decls : List OverrideDecl) (plans : List PropertyPlan)
    (b : BlockedParameter) : Prop where
  ignored : OverrideSet.Ignores decls b.name → b.cause = .ignored
  unresolved : ¬ OverrideSet.Ignores decls b.name →
    ∃ plan ∈ plans, plan.key = b.key ∧
      ∃ source reason, plan.resolution = .unresolved source reason ∧
        b.cause = .unresolved reason

theorem OverrideDecl.kind_ne_ignore (d : OverrideDecl) : d.kind ≠ .ignore := by
  unfold kind
  split <;> simp

theorem OverrideDecl.effect_eq_ignore_iff (d : OverrideDecl) :
    d.effect = .ignore ↔ d.ignore = true := by
  rw [effect]
  cases d.ignore with
  | true => simp
  | false => simpa using d.kind_ne_ignore

namespace Construction

/-- The list names each required parameter that is left out once, in the order in which they are
declared first, and explains them all. -/
structure NamesBlockers (target : TypeDescriptor) (decls : List OverrideDecl)
    (plans : List PropertyPlan) (blocking : List BlockedParameter) : Prop where
  named : ∀ key, key ∈ blocking.map (·.key) ↔
    ∃ c ∈ target.constructors, ∃ p ∈ c.parameters, Blocks plans p ∧ p.key = key
  once : (blocking.map (·.key)).Nodup
  inOrder : (blocking.map (·.key)).Pairwise fun key key' =>
    (target.required.map Property.key).idxOf key < (target.required.map Property.key).idxOf key'
  explained : ∀ b ∈ blocking, b.Explained decls plans

end Construction

namespace Resolver

open Construction

variable {r : Resolver} {source target : TypeDescriptor} {decls : List OverrideDecl}
  {request : MappingRequest} {plans : List PropertyPlan} {plan : PropertyPlan} {slot : Slot}
  {c : Constructor} {s : SlotSource} {b : BlockedParameter}

/-- Every parameter of a constructor has a planned slot. -/
theorem mem_map_key_of_planDeclared (h : r.planDeclared source target decls = .ok plans) :
    ∀ c ∈ target.constructors, ∀ p ∈ c.parameters, p.key ∈ plans.map (·.key) := by
  intro c hc p hp
  rw [map_key_of_planDeclared h, TypeDescriptor.mem_slot_keys_iff]
  exact ⟨p, List.mem_append_left _ (List.mem_flatMap.mpr ⟨c, hc, hp⟩), rfl⟩

theorem resolution_eq_ignored_iff {type : TypeRef} :
    r.resolution type s = .ignored ↔ s = .ignored := by
  cases s with
  | property name sourceType byOverride =>
    simp only [resolution]
    cases r.resolve sourceType type with
    | ok step => cases byOverride <;> simp
    | error reason => simp
  | constant | expression | ignored | unmatched => simp [resolution]

/-- A slot is ignored exactly if its override asks for that. -/
theorem sourceOf_eq_ignored_iff {overrides : OverrideSet}
    (hs : Matching.sourceOf source overrides slot = .ok s) :
    s = .ignored ↔ overrides.find? slot.name = some .ignore := by
  rw [Matching.sourceOf] at hs
  cases hfind : overrides.find? slot.name with
  | none =>
    -- matched by name, or not at all
    rw [hfind] at hs
    cases hp : source.property? slot.name with
    | none =>
      simp only [hp] at hs
      cases hs
      simp
    | some p =>
      simp only [hp] at hs
      cases hs
      simp
  | some kind =>
    rw [hfind] at hs
    cases kind with
    | ignore | constant | expression =>
      cases hs
      simp
    | source name =>
      cases hp : source.property? name with
      | none => simp [hp] at hs
      | some p =>
        simp only [hp] at hs
        cases hs
        simp

/-- A slot is ignored exactly if the declarations leave its name alone. -/
theorem resolution_eq_ignored_iff_ignores (h : r.planDeclared source target decls = .ok plans)
    (hp : plan ∈ plans) : plan.resolution = .ignored ↔ OverrideSet.Ignores decls plan.target := by
  obtain ⟨slot, _, s, hs, rfl⟩ := exists_slot_of_mem_plans h hp
  have hsource : r.resolution slot.type s = .ignored ↔ _ :=
    resolution_eq_ignored_iff.trans (sourceOf_eq_ignored_iff hs)
  change r.resolution slot.type s = .ignored ↔ OverrideSet.Ignores decls slot.name
  rw [hsource, OverrideSet.find?_partition, Option.map_eq_some_iff]
  simp only [OverrideDecl.effect_eq_ignore_iff, OverrideSet.Ignores]

/-- A cause that is told for a slot without a value is the true one. -/
theorem explained_of_leavesOut (h : r.planDeclared source target decls = .ok plans)
    (hp : plan ∈ plans) (hkey : plan.key = b.key) (hcause : plan.LeavesOut b.cause) :
    b.Explained decls plans := by
  have hname : plan.target = b.name := congrArg Prod.fst hkey
  -- the plan and the declarations agree about what is left alone
  have hignored := resolution_eq_ignored_iff_ignores h hp
  rw [hname] at hignored
  obtain ⟨name, type, cause⟩ := b
  constructor
  case ignored =>
    intro hleft
    have hres := hignored.mpr hleft
    cases hcause with
    | ignored _ => rfl
    | unresolved hother =>
      rw [hres] at hother
      cases hother
  case unresolved =>
    intro hkept
    cases hcause with
    | ignored hres => exact absurd (hignored.mp hres) hkept
    | unresolved hres => exact ⟨plan, hp, hkey, _, _, hres, rfl⟩

theorem explained_of_mem_blocked (h : r.planDeclared source target decls = .ok plans)
    (hc : c ∈ target.constructors) (hb : b ∈ blocked plans c) : b.Explained decls plans := by
  have hk := nodup_keys_of_planDeclared h
  obtain ⟨plan, hplan, hkey, hcause⟩ :=
    exists_plan_of_mem_blocked hk (mem_map_key_of_planDeclared h c hc) hb
  exact explained_of_leavesOut h hplan hkey hcause

/-- Once all slots are planned, a mapping fails by the choice of a constructor only. -/
theorem resolvePair_eq_error_iff_choose
    (h : r.planDeclared source target request.overrides = .ok plans) {failure : MappingFailure} :
    r.resolvePair source target request = .error failure ↔
      ∃ e, Construction.choose plans target request.constructor = .error e ∧
        failure = ⟨source.name, target.name, [e]⟩ := by
  rw [resolvePair_eq_error_iff]
  constructor
  · rintro ⟨errors, rfl, hflawed | ⟨plans', e, hplans', he, rfl⟩⟩
    · rw [h] at hflawed
      cases hflawed
    · rw [h] at hplans'
      cases hplans'
      exact ⟨e, he, rfl⟩
  · rintro ⟨e, he, rfl⟩
    exact ⟨[e], rfl, .inr ⟨plans, e, h, he, rfl⟩⟩

/-- If the slots can be planned, a mapping fails only for want of a constructor. -/
theorem exists_failure_iff (h : r.planDeclared source target request.overrides = .ok plans) :
    (∃ failure, r.resolvePair source target request = .error failure) ↔
      ∃ e, Construction.choose plans target request.constructor = .error e := by
  simp only [resolvePair_eq_error_iff_choose h]
  constructor
  · rintro ⟨_, e, he, _⟩
    exact ⟨e, he⟩
  · rintro ⟨e, he⟩
    exact ⟨_, e, he, rfl⟩

/-- What is told if no constructor can be called. -/
theorem namesBlockers_of_planDeclared (h : r.planDeclared source target decls = .ok plans) :
    NamesBlockers target decls plans
      (distinctBy BlockedParameter.key (target.constructors.flatMap (blocked plans))) := by
  have hk := nodup_keys_of_planDeclared h
  have ht := mem_map_key_of_planDeclared h
  have hkeys := map_key_blocking hk ht
  constructor
  case named =>
    intro key
    -- leaving out what is told already loses no parameter
    rw [mem_map_distinctBy, List.map_flatMap, List.mem_flatMap]
    constructor
    · rintro ⟨c, hc, hkey⟩
      rw [map_key_blocked_eq_blocks hk (ht c hc), List.mem_map] at hkey
      obtain ⟨p, hp, hkey⟩ := hkey
      obtain ⟨hp, hblocks⟩ := List.mem_filter.mp hp
      exact ⟨c, hc, p, hp, of_decide_eq_true hblocks, hkey⟩
    · rintro ⟨c, hc, p, hp, hblocks, hkey⟩
      refine ⟨c, hc, ?_⟩
      rw [map_key_blocked_eq_blocks hk (ht c hc), List.mem_map]
      exact ⟨p, List.mem_filter.mpr ⟨hp, decide_eq_true hblocks⟩, hkey⟩
  case once => exact nodup_map_distinctBy BlockedParameter.key _
  case inOrder =>
    rw [hkeys]
    exact (pairwise_idxOf_distinctBy _).filter _
  case explained =>
    intro b hb
    have hmem := (distinctBy_sublist BlockedParameter.key _).subset hb
    obtain ⟨c, hc, hb⟩ := List.mem_flatMap.mp hmem
    exact explained_of_mem_blocked h hc hb

/-- Once all slots are planned, a mapping fails exactly if each constructor that comes into question
has a required parameter whose slot is ignored or unresolved, and the failure names every such
parameter with its cause. Without a signature all constructors come into question, and parameters
that several of them share are named once. With a signature only the first of that signature does;
if there is none, the failure lists all signatures declared. -/
theorem resolvePair_blocked (r : Resolver) (source target : TypeDescriptor)
    (request : MappingRequest) (plans : List PropertyPlan)
    (h : r.planDeclared source target request.overrides = .ok plans) :
    (request.constructor = none →
      ((∃ failure, r.resolvePair source target request = .error failure) ↔
        ∀ c ∈ target.constructors, ∃ p ∈ c.parameters, Blocks plans p) ∧
      ∀ failure, r.resolvePair source target request = .error failure →
        ∃ blocking, failure.errors = [.noMatchingConstructor target.name blocking] ∧
          NamesBlockers target request.overrides plans blocking) ∧
    ∀ s, request.constructor = some s →
      ((∃ failure, r.resolvePair source target request = .error failure ∧
          failure.errors = [.unknownConstructor s (target.constructors.map (·.signature))]) ↔
        ∀ c ∈ target.constructors, c.signature ≠ s) ∧
      ∀ c i, IsFirstOf target s c i →
        ((∃ failure, r.resolvePair source target request = .error failure) ↔
          ∃ p ∈ c.parameters, Blocks plans p) ∧
        ∀ failure, r.resolvePair source target request = .error failure →
          ∃ unsatisfied, failure.errors = [.constructorNotSatisfiable s unsatisfied] ∧
            unsatisfied.map (·.key) = (c.parameters.filter (Blocks plans ·)).map Property.key ∧
            ∀ b ∈ unsatisfied, b.Explained request.overrides plans := by
  have hk := nodup_keys_of_planDeclared h
  have ht := mem_map_key_of_planDeclared h
  have hfails := exists_failure_iff h
  constructor
  · intro hnone
    rw [hnone] at hfails
    refine ⟨hfails.trans (exists_choose_none_eq_error_iff hk ht), ?_⟩
    intro failure hfailure
    obtain ⟨e, he, rfl⟩ := (resolvePair_eq_error_iff_choose h).mp hfailure
    -- the only error of a choice without a signature is that none can be called
    rw [hnone, choose_none_eq_error_iff] at he
    obtain ⟨_, rfl⟩ := he
    exact ⟨_, rfl, namesBlockers_of_planDeclared h⟩
  · intro s hs
    rw [hs] at hfails
    constructor
    · rw [← choose_eq_unknownConstructor_iff, ← hs]
      constructor
      · rintro ⟨failure, hfailure, herrors⟩
        obtain ⟨e, he, rfl⟩ := (resolvePair_eq_error_iff_choose h).mp hfailure
        cases herrors
        exact he
      · intro he
        exact ⟨_, (resolvePair_eq_error_iff_choose h).mpr ⟨_, he, rfl⟩, rfl⟩
    · intro c i hfirst
      have hc := List.mem_of_getElem? hfirst.declared
      refine ⟨hfails.trans (exists_choose_some_eq_error_iff hk (ht c hc) hfirst), ?_⟩
      intro failure hfailure
      obtain ⟨e, he, rfl⟩ := (resolvePair_eq_error_iff_choose h).mp hfailure
      -- as some constructor has the signature, all that may fail is to satisfy the first of these
      rw [hs, choose_of_isFirstOf hfirst] at he
      split at he
      · cases he
      · cases he
        refine ⟨_, rfl, map_key_blocked_eq_blocks hk (ht c hc), ?_⟩
        intro b hb
        exact explained_of_mem_blocked h hc hb

end Resolver

namespace Sample

def boolean : TypeRef := { name := "Boolean" }

def badgeById : Constructor :=
  ⟨[{ name := "id", type := boolean }, { name := "label", type := text, required := false }]⟩

def badgeByLabel : Constructor :=
  ⟨[{ name := "label", type := text }, { name := "id", type := boolean }]⟩

def badgeByNote : Constructor := ⟨[{ name := "note", type := text }]⟩

def badge : TypeDescriptor where
  name := "Badge"
  constructors := [badgeById, badgeByLabel, badgeByNote]

def badgeRequest : MappingRequest where
  source := "Order"
  target := "Badge"
  overrides := [{ target := "note", ignore := true }]

def labelMissing : BlockedParameter := ⟨"label", text, .unresolved .unmatched⟩

def idMismatched : BlockedParameter := ⟨"id", boolean, .unresolved (.noConverter long boolean)⟩

def badgeFailure (e : MappingError) : MappingFailure := ⟨"Order", "Badge", [e]⟩

/-- The id is told once though two constructors take it, and the label though the first can do
without. Asked for by its label, a badge fails by what that constructor needs, in its order. -/
theorem badge_blocked :
    ∃ plans,
      Resolver.planDeclared ⟨.standard, false⟩ order badge badgeRequest.overrides = .ok plans ∧
      Resolver.resolvePair ⟨.standard, false⟩ order badge badgeRequest =
        .error (badgeFailure (.noMatchingConstructor "Badge"
          [idMismatched, labelMissing, ⟨"note", text, .ignored⟩])) ∧
      (∀ c ∈ badge.constructors, ∃ p ∈ c.parameters, Construction.Blocks plans p) ∧
      Construction.NamesBlockers badge badgeRequest.overrides plans
        [idMismatched, labelMissing, ⟨"note", text, .ignored⟩] ∧
      Resolver.resolvePair ⟨.standard, false⟩ order badge
          { badgeRequest with constructor := some ⟨[long]⟩ } =
        .error (badgeFailure
          (.unknownConstructor ⟨[long]⟩ [⟨[boolean, text]⟩, ⟨[text, boolean]⟩, ⟨[text]⟩])) ∧
      (∀ c ∈ badge.constructors, c.signature ≠ ⟨[long]⟩) ∧
      Construction.IsFirstOf badge ⟨[text, boolean]⟩ badgeByLabel 1 ∧
      Resolver.resolvePair ⟨.standard, false⟩ order badge
          { badgeRequest with constructor := some ⟨[text, boolean]⟩ } =
        .error (badgeFailure
          (.constructorNotSatisfiable ⟨[text, boolean]⟩ [labelMissing, idMismatched])) ∧
      [labelMissing, idMismatched].map (·.key) =
        (badgeByLabel.parameters.filter (Construction.Blocks plans ·)).map Property.key := by
  obtain ⟨hfree, _⟩ :=
    Resolver.resolvePair_blocked ⟨.standard, false⟩ order badge badgeRequest _ rfl
  obtain ⟨_, hunknown⟩ := Resolver.resolvePair_blocked ⟨.standard, false⟩ order badge
    { badgeRequest with constructor := some ⟨[long]⟩ } _ rfl
  obtain ⟨_, hpinned⟩ := Resolver.resolvePair_blocked ⟨.standard, false⟩ order badge
    { badgeRequest with constructor := some ⟨[text, boolean]⟩ } _ rfl
  have hfirst : Construction.IsFirstOf badge ⟨[text, boolean]⟩ badgeByLabel 1 :=
    Construction.bySignature?_eq_some_iff.mp (by decide)
  obtain ⟨hblocked, htold⟩ := hfree rfl
  obtain ⟨blocking, hblocking, hnames⟩ := htold _ rfl
  cases hblocking
  obtain ⟨unsatisfied, hunsatisfied, hkeys, _⟩ := ((hpinned _ rfl).2 badgeByLabel 1 hfirst).2 _ rfl
  cases hunsatisfied
  exact ⟨_, rfl, rfl, hblocked.mp ⟨_, rfl⟩, hnames, rfl, (hunknown _ rfl).1.mp ⟨_, rfl, rfl⟩, hfirst,
    rfl, hkeys⟩

end Sample

end ObjectMapping
