import ObjectMapping.Descriptor.Slot
import ObjectMapping.MappingError
import ObjectMapping.Override.Set

namespace ObjectMapping

inductive SlotSource where
  -- a source property, found by name or named by an override
  | property (name : String) (type : TypeRef) (byOverride : Bool)
  | constant (value : String)
  | expression (text : String)
  | ignored
  -- there is no source property of the slot's name
  | unmatched
deriving DecidableEq, Repr

structure MatchedSlot where
  slot : Slot
  source : SlotSource
deriving DecidableEq, Repr

namespace Matching

def collect {ε α : Type} : List (Except ε α) → Except (List ε) (List α)
  | [] => .ok []
  -- one error loses all values, and none of the other errors
  | .ok a :: rest =>
    match collect rest with
    | .ok as => .ok (a :: as)
    | .error es => .error es
  | .error e :: rest =>
    match collect rest with
    | .ok _ => .error [e]
    | .error es => .error (e :: es)

def sourceOf (source : TypeDescriptor) (overrides : OverrideSet) (slot : Slot) :
    Except MappingError SlotSource :=
  match overrides.find? slot.name with
  | some .ignore => .ok .ignored
  | some (.constant value) => .ok (.constant value)
  | some (.expression text) => .ok (.expression text)
  | some (.source name) =>
    match source.property? name with
    | some p => .ok (.property p.name p.type true)
    | none => .error (.propertyNotFound slot.name name source.propertyNames)
  | none =>
    -- without an override the names have to be the same
    match source.property? slot.name with
    | some p => .ok (.property p.name p.type false)
    | none => .ok .unmatched

def matchSlot (source : TypeDescriptor) (overrides : OverrideSet) (slot : Slot) :
    Except MappingError MatchedSlot :=
  (sourceOf source overrides slot).map fun s => ⟨slot, s⟩

/-- Matches every slot of the target, or reports every slot whose override reads a property that
the source does not have. -/
def matchSlots (source target : TypeDescriptor) (overrides : OverrideSet) :
    Except (List MappingError) (List MatchedSlot) :=
  collect (target.slots.map (matchSlot source overrides))

def warnings (target : TypeDescriptor) (overrides : OverrideSet) : List Warning :=
  (overrides.keys.filter fun name => !target.slots.any (·.name = name)).map fun name =>
    .unusedOverride name target.name

end Matching

end ObjectMapping
