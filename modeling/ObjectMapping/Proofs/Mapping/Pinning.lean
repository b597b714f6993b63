import ObjectMapping.Proofs.Mapping.Delivery
import ObjectMapping.Proofs.Mapping.Optimality

namespace ObjectMapping

namespace Construction

variable {plans : List PropertyPlan} {source target : TypeDescriptor} {c : Constructor}
  {i : Nat}

/-- The arguments of an assembled result are the plans with a value for the parameters. -/
theorem arguments_assemble (plans : List PropertyPlan) (source target : TypeDescriptor)
    (c : Constructor) (i : Nat) :
    ((assemble plans target c i).result source target).arguments =
      inPhase .constructor (c.parameters.filterMap (planFor? plans)) := by
  have harguments : ∀ e ∈ inPhase .constructor (c.parameters.filterMap (planFor? plans)),
      decide (e.phase = .constructor) = true := by
    intro e he
    exact decide_eq_true (phase_of_mem_inPhase he)
  have hassignments :
      ∀ e ∈ inPhase .postConstruction ((openProperties target c).filterMap (planFor? plans)),
        ¬ decide (e.phase = .constructor) = true := by
    intro e he
    simp [phase_of_mem_inPhase he]
  change List.filter _ (_ ++ _) = _
  rw [List.filter_append, List.filter_eq_self.mpr harguments,
    List.filter_eq_nil_iff.mpr hassignments, List.append_nil]

/-- As many arguments are passed as parameters are supplied. -/
theorem length_arguments (hk : (plans.map (·.key)).Nodup) (i : Nat) :
    ((assemble plans target c i).result source target).arguments.length = supply plans c := by
  have hslots : (inPhase .constructor (c.parameters.filterMap (planFor? plans))).map
      (fun e => (e.key, e.phase)) =
        (c.parameters.filter (HasValue plans ·)).map fun p => (p.key, .constructor) :=
    map_inPhase hk c.parameters
  calc
    _ = (inPhase .constructor (c.parameters.filterMap (planFor? plans))).length := by
      rw [arguments_assemble]
    _ = (c.parameters.filter (HasValue plans ·)).length := by
      simpa only [List.length_map] using congrArg List.length hslots
    _ = supply plans c := by
      simp only [supply, supplied_iff_hasValue hk]

/-- If all signatures differ, each constructor is the first of its own. -/
theorem isFirstOf_signature (hs : (target.constructors.map (·.signature)).Nodup)
    (h : target.constructors[i]? = some c) : IsFirstOf target c.signature c i := by
  constructor
  case declared => exact h
  case signature => rfl
  case earliest =>
    intro j d hd hsig
    have hi : (target.constructors.map (·.signature))[i]? = some c.signature := by
      rw [List.getElem?_map, h, Option.map_some]
    have hj : (target.constructors.map (·.signature))[j]? = some c.signature := by
      rw [List.getElem?_map, hd, Option.map_some]
      exact congrArg some (congrArg Signature.mk hsig)
    obtain ⟨hlt, _⟩ := List.getElem?_eq_some_iff.mp hi
    exact Nat.le_of_eq ((List.getElem?_inj hlt hs).mp (hi.trans hj.symm))

end Construction

namespace Resolver

open Construction

variable {r : Resolver} {source target : TypeDescriptor} {request : MappingRequest}
  {result : MappingResult} {s : Signature}

/-- Asking for the very constructor that is chosen anyway changes nothing. -/
theorem resolvePair_pinned_self (hs : (target.constructors.map (·.signature)).Nodup)
    (h : r.resolvePair source target { request with constructor := none } = .ok result) :
    r.resolvePair source target { request with constructor := some result.constructor } =
      .ok result := by
  obtain ⟨plans, c, i, hplans, hchoose, rfl⟩ := resolvePair_eq_ok_iff.mp h
  have hoptimal := choose_none_eq_ok_iff.mp hchoose
  have hfirst := isFirstOf_signature hs hoptimal.declared
  have hpinned := choose_some_eq_ok_iff.mpr ⟨hfirst, hoptimal.callable⟩
  exact resolvePair_eq_ok_iff.mpr ⟨plans, c, i, hplans, hpinned, rfl⟩

/-- What works with a certain constructor works without asking for it, with no fewer arguments. -/
theorem resolvePair_pinned_le
    (h : r.resolvePair source target { request with constructor := some s } = .ok result) :
    result.constructor = s ∧
      ∃ best, r.resolvePair source target { request with constructor := none } = .ok best ∧
        result.arguments.length ≤ best.arguments.length := by
  obtain ⟨plans, c, i, hplans, hchoose, rfl⟩ := resolvePair_eq_ok_iff.mp h
  obtain ⟨hfirst, hcall⟩ := choose_some_eq_ok_iff.mp hchoose
  have hk := nodup_keys_of_planDeclared hplans
  -- the constructor asked for is one of those that are compared when the choice is open
  obtain ⟨⟨best, j⟩, _, hoptimal⟩ := exists_isOptimal hfirst.declared hcall
  have hbest := choose_none_eq_ok_iff.mpr hoptimal
  refine ⟨congrArg Signature.mk hfirst.signature, _,
    resolvePair_eq_ok_iff.mpr ⟨plans, best, j, hplans, hbest, rfl⟩, ?_⟩
  rw [length_arguments hk, length_arguments hk]
  exact hoptimal.most i c hfirst.declared hcall

/-- A result can be pinned to itself if no two constructors have the same signature: asking for its
constructor gives the very same result. A result by a constructor asked for is by that one, and with
the choice left open the mapping succeeds as well, with no fewer arguments. -/
theorem resolvePair_pinned (r : Resolver) (source target : TypeDescriptor)
    (request : MappingRequest) :
    ((target.constructors.map (·.signature)).Nodup → ∀ result,
      r.resolvePair source target { request with constructor := none } = .ok result →
      r.resolvePair source target { request with constructor := some result.constructor } =
        .ok result) ∧
    ∀ s result,
      r.resolvePair source target { request with constructor := some s } = .ok result →
      result.constructor = s ∧
        ∃ best, r.resolvePair source target { request with constructor := none } = .ok best ∧
          result.arguments.length ≤ best.arguments.length := by
  constructor
  · intro hs result h
    exact resolvePair_pinned_self hs h
  · intro s result h
    exact resolvePair_pinned_le h

end Resolver

namespace Sample

/-- The label of an invoice makes its second constructor the better one. Asked for by its id alone,
it takes one argument in place of two. -/
theorem invoice_pinned :
    (invoice.constructors.map (·.signature)).Nodup ∧
      Resolver.resolvePair ⟨.standard, false⟩ order invoice request = .ok result ∧
      Resolver.resolvePair ⟨.standard, false⟩ order invoice
        { request with constructor := some ⟨[text, text]⟩ } = .ok result ∧
      ∃ shorter,
        Resolver.resolvePair ⟨.standard, false⟩ order invoice
          { request with constructor := some ⟨[long]⟩ } = .ok shorter ∧
        shorter.constructor = ⟨[long]⟩ ∧
        shorter.arguments.length = 1 ∧ shorter.arguments.length ≤ result.arguments.length := by
  obtain ⟨hself, hother⟩ := Resolver.resolvePair_pinned ⟨.standard, false⟩ order invoice request
  have hsignatures : (invoice.constructors.map (·.signature)).Nodup := by decide
  have hresult : Resolver.resolvePair ⟨.standard, false⟩ order invoice request = .ok result := by
    rfl
  obtain ⟨hlong, best, hbest, hle⟩ := hother ⟨[long]⟩ _ rfl
  have hsame : best = result := Except.ok.inj (hbest.symm.trans hresult)
  exact ⟨hsignatures, hresult, hself hsignatures result hresult, _, rfl, hlong, rfl, hsame ▸ hle⟩

end Sample

end ObjectMapping
