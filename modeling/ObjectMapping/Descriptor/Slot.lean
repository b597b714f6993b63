import ObjectMapping.Descriptor.Basic
import ObjectMapping.Distinct

namespace ObjectMapping

structure Slot where
  name : String
  type : TypeRef
  -- whether it can be assigned once the target is built
  mutable : Bool
deriving DecidableEq, Repr

def Slot.key (s : Slot) : String × TypeRef :=
  (s.name, s.type)

namespace TypeDescriptor

/-- The slot of a constructor parameter. It is mutable if the property of that name is, and has
the same type. -/
def parameterSlot (d : TypeDescriptor) (p : Property) : Slot where
  name := p.name
  type := p.type
  mutable := (d.property? p.name).any fun q => q.mutable && q.type = p.type

def propertySlot (p : Property) : Slot where
  name := p.name
  type := p.type
  mutable := true

def parameters (d : TypeDescriptor) : List Property :=
  d.constructors.flatMap (·.parameters)

/-- The slots of the type: first those of the parameters, then those of the mutable properties
which no parameter has covered. -/
def slots (d : TypeDescriptor) : List Slot :=
  distinctBy Slot.key (d.parameters.map d.parameterSlot ++ d.mutableProperties.map propertySlot)

end TypeDescriptor

end ObjectMapping
