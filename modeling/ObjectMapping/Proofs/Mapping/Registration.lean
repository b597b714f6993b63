import ObjectMapping.Engine
import ObjectMapping.Proofs.Mapping.Likeness
import ObjectMapping.Proofs.Mapping.Result

namespace ObjectMapping

namespace Resolver

variable {r r' : Resolver} {source target : TypeDescriptor}

theorem resolution_alike (h : r.Permuted r') (type : TypeRef) (s : SlotSource) :
    (r.resolution type s).Alike (r'.resolution type s) := by
  cases s with
  | property name sourceType byOverride =>
    have hstep := resolveWithin_alike h maxLevels sourceType type
    simp only [resolution, resolve]
    generalize r.resolveWithin maxLevels sourceType type = step,
      r'.resolveWithin maxLevels sourceType type = step' at hstep ⊢
    cases hstep with
    | error hreason => exact .unresolved _ hreason
    | ok halike =>
      cases byOverride with
      | true => exact .matchedByOverride name halike
      | false => exact .matchedByName name halike
  | constant | expression | ignored | unmatched => exact .same _

theorem planAll_alike (h : r.Permuted r') (slots : List MatchedSlot) :
    List.Forall₂ PropertyPlan.Alike (r.planAll slots) (r'.planAll slots) := by
  rw [planAll, planAll, List.forall₂_map_left_iff, List.forall₂_map_right_iff, List.forall₂_same]
  intro m _
  exact ⟨rfl, rfl, resolution_alike h m.slot.type m.source, rfl⟩

/-- What is wrong with overrides does not depend on converters at all. -/
theorem planDeclared_alike (h : r.Permuted r') (decls : List OverrideDecl) :
    Agree Eq (List.Forall₂ PropertyPlan.Alike) (r.planDeclared source target decls)
      (r'.planDeclared source target decls) := by
  simp only [planDeclared, planSlots]
  cases Matching.matchSlots source target (OverrideSet.partition decls).overrides with
  | error errors => exact .error rfl
  | ok slots =>
    simp only [Except.map]
    split
    · exact .ok (planAll_alike h slots)
    · exact .error rfl

/-- The same constructor is selected whatever the order of registration. -/
theorem selectFor_alike (h : r.Permuted r') (source target : TypeDescriptor)
    (request : MappingRequest) :
    Agree (List.Forall₂ MappingError.Alike) Selection.Alike (r.selectFor source target request)
      (r'.selectFor source target request) := by
  unfold selectFor
  match r.planDeclared source target request.overrides,
    r'.planDeclared source target request.overrides, planDeclared_alike h request.overrides with
  | _, _, .error rfl => exact .error (List.forall₂_same.mpr fun e _ => .same e)
  | .ok plans, .ok plans', .ok halike =>
    simp only
    match Construction.select plans target request.constructor,
      Construction.select plans' target request.constructor,
      Construction.select_alike halike with
    | _, _, .error he => exact .error (.cons he .nil)
    | _, _, .ok hs => exact .ok hs

/-- Registering the same converters in another order leads to the same outcome for every mapping,
up to the places of converters in steps and the order of names in ties. -/
theorem resolvePair_permuted (r r' : Resolver) (h : r.Permuted r') (source target : TypeDescriptor)
    (request : MappingRequest) :
    Agree MappingFailure.Alike MappingResult.Alike (r.resolvePair source target request)
      (r'.resolvePair source target request) := by
  unfold resolvePair
  match r.selectFor source target request, r'.selectFor source target request,
    selectFor_alike h source target request with
  | _, _, .error he => exact .error ⟨rfl, rfl, he⟩
  | _, _, .ok hs =>
    exact .ok ⟨rfl, rfl, hs.signature, hs.index, hs.properties, hs.unresolved⟩

end Resolver

namespace Sample

def labelRules : List Converter :=
  [.pattern "Print" (.named "Code" []) (.named "Label" []) 1000,
    .pattern "Stamp" (.named "Code" []) (.named "Label" []) 1000]

def printFirst : Resolver := ⟨⟨labelRules ++ Registry.standard.converters⟩, false⟩

def stampFirst : Resolver := ⟨⟨Registry.standard.converters ++ labelRules.reverse⟩, false⟩

def code : TypeDescriptor where
  name := "Code"
  properties := [{ name := "label", type := { name := "Code" } }]

def label : TypeDescriptor where
  name := "Label"
  constructors := [⟨[{ name := "label", type := { name := "Label" } }]⟩]

def tieOf (names : List String) : MappingFailure where
  sourceType := "Code"
  targetType := "Label"
  errors :=
    [.noMatchingConstructor "Label"
      [⟨"label", { name := "Label" },
        .unresolved (.ambiguousConverter { name := "Code" } { name := "Label" } names)⟩]]

/-- An order that is mapped, and a code that is not, by the same converters in two orders. -/
theorem registered_twice :
    printFirst.Permuted stampFirst ∧
      Agree MappingFailure.Alike MappingResult.Alike
        (printFirst.resolvePair order invoice request)
        (stampFirst.resolvePair order invoice request) ∧
      stampFirst.resolvePair order invoice request = .ok result ∧
      Agree MappingFailure.Alike MappingResult.Alike
        (printFirst.resolvePair code label { source := "Code", target := "Label" })
        (stampFirst.resolvePair code label { source := "Code", target := "Label" }) ∧
      printFirst.resolvePair code label { source := "Code", target := "Label" } =
        .error (tieOf ["Print", "Stamp"]) ∧
      stampFirst.resolvePair code label { source := "Code", target := "Label" } =
        .error (tieOf ["Stamp", "Print"]) := by
  have h : printFirst.Permuted stampFirst := by
    constructor
    · exact List.perm_append_comm.trans (List.Perm.append_left _ (List.reverse_perm _).symm)
    · rfl
  exact ⟨h, Resolver.resolvePair_permuted _ _ h order invoice request, by rfl,
    Resolver.resolvePair_permuted _ _ h code label _, by rfl, by rfl⟩

end Sample

end ObjectMapping
