import ObjectMapping.Conversion
import ObjectMapping.Matching

namespace ObjectMapping.Resolver

def resolution (r : Resolver) (type : TypeRef) : SlotSource → Resolution
  | .property name source byOverride =>
    match r.resolve source type with
    | .ok step => if byOverride then .matchedByOverride name step else .matchedByName name step
    | .error reason => .unresolved (some name) reason
  | .constant value => .constant value
  | .expression text => .expression text
  | .ignored => .ignored
  | .unmatched => .unresolved none .unmatched

def plan (r : Resolver) (m : MatchedSlot) : PropertyPlan where
  target := m.slot.name
  targetType := m.slot.type
  resolution := r.resolution m.slot.type m.source

def planAll (r : Resolver) (slots : List MatchedSlot) : List PropertyPlan :=
  slots.map r.plan

end ObjectMapping.Resolver
