import ObjectMapping.Distinct
import ObjectMapping.MappingError
import ObjectMapping.Warning

namespace ObjectMapping

structure Selection where
  index : Nat
  signature : Signature
  -- the arguments of the constructor, then the assignments after construction
  properties : List PropertyPlan
  -- what could not be converted for parameters and properties of the chosen constructor
  unpopulated : List UnresolvedProperty
  -- what could not be converted for other slots
  elsewhere : List UnresolvedProperty
deriving DecidableEq, Repr

namespace Selection

def unresolved (s : Selection) : List UnresolvedProperty :=
  s.unpopulated ++ s.elsewhere

def warnings (s : Selection) (targetType : String) : List Warning :=
  s.unpopulated.map (fun u => .unpopulated targetType u.name u.reason) ++
    s.elsewhere.map fun u => .unresolvedElsewhere targetType u.name u.reason

end Selection

namespace Construction

def planFor? (plans : List PropertyPlan) (p : Property) : Option PropertyPlan :=
  plans.find? fun plan => plan.key = (p.name, p.type)

def blocker? (plans : List PropertyPlan) (p : Property) : Option Blocker :=
  match planFor? plans p with
  -- the plans of a whole target have one for every slot, so that this is never the case for them
  | none => some (.unresolved .unmatched)
  | some plan =>
    match plan.resolution with
    | .ignored => some .ignored
    | .unresolved _ reason => some (.unresolved reason)
    | _ => none

def blocked (plans : List PropertyPlan) (c : Constructor) : List BlockedParameter :=
  c.required.filterMap fun p => (blocker? plans p).map fun cause => ⟨p.name, p.type, cause⟩

def isSatisfiable (plans : List PropertyPlan) (c : Constructor) : Bool :=
  (blocked plans c).isEmpty

def score (plans : List PropertyPlan) (c : Constructor) : Nat :=
  c.parameters.countP fun p => (planFor? plans p).any (·.isResolved)

def better (plans : List PropertyPlan) (c : Constructor × Nat) :
    Option (Constructor × Nat) → Constructor × Nat
  | none => c
  -- the later one has to supply more, so that the first declared wins a tie
  | some later => if score plans c.1 < score plans later.1 then later else c

def best? (plans : List PropertyPlan) (target : TypeDescriptor) : Option (Constructor × Nat) :=
  (target.constructors.zipIdx.filter fun c => isSatisfiable plans c.1).foldr
    (fun c later => some (better plans c later)) none

/-- The error for a target without a satisfiable constructor. It names each parameter that stands
in the way once. -/
def noneMatching (plans : List PropertyPlan) (target : TypeDescriptor) : MappingError :=
  .noMatchingConstructor target.name
    (distinctBy BlockedParameter.key (target.constructors.flatMap (blocked plans)))

def bySignature? (target : TypeDescriptor) (s : Signature) : Option (Constructor × Nat) :=
  target.constructors.zipIdx.find? fun c => c.1.signature = s

def choose (plans : List PropertyPlan) (target : TypeDescriptor) :
    Option Signature → Except MappingError (Constructor × Nat)
  | none =>
    match best? plans target with
    | some c => .ok c
    | none => .error (noneMatching plans target)
  | some s =>
    match bySignature? target s with
    | none => .error (.unknownConstructor s (target.constructors.map (·.signature)))
    | some c =>
      if isSatisfiable plans c.1 then .ok c
      else .error (.constructorNotSatisfiable s (blocked plans c.1))

/-- The mutable properties that no parameter of the constructor is named like. -/
def openProperties (target : TypeDescriptor) (c : Constructor) : List Property :=
  target.mutableProperties.filter fun p => p.name ∉ c.parameters.map (·.name)

def inPhase (phase : AssignmentPhase) (plans : List PropertyPlan) : List PropertyPlan :=
  (plans.filter (·.isResolved)).map fun plan => { plan with phase }

def unresolvedOf (plans : List PropertyPlan) : List UnresolvedProperty :=
  plans.filterMap fun plan =>
    plan.conversionFailure?.map fun reason => ⟨plan.target, plan.targetType, reason⟩

def assemble (plans : List PropertyPlan) (target : TypeDescriptor) (c : Constructor) (index : Nat) :
    Selection :=
  let arguments := c.parameters.filterMap (planFor? plans)
  let assignments := (openProperties target c).filterMap (planFor? plans)
  let unpopulated := unresolvedOf (arguments ++ assignments)
  { index
    signature := c.signature
    properties := inPhase .constructor arguments ++ inPhase .postConstruction assignments
    unpopulated
    -- what is told above is not told again
    elsewhere :=
      unresolvedOf (plans.filter fun plan => plan.key ∉ unpopulated.map UnresolvedProperty.key) }

def select (plans : List PropertyPlan) (target : TypeDescriptor) (explicit : Option Signature) :
    Except MappingError Selection :=
  match choose plans target explicit with
  | .error e => .error e
  | .ok (_, index) =>
    -- the place is that of a declared constructor, so that the last case never arises
    match target.constructors[index]? with
    | some c => .ok (assemble plans target c index)
    | none => .error (noneMatching plans target)

end Construction

end ObjectMapping
