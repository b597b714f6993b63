import ObjectMapping.TypeRef.Basic

namespace ObjectMapping

structure Property where
  name : String
  type : TypeRef
  -- Whether a constructor needs a value for it. A parameter that is not required has a default.
  required : Bool := true
  -- whether it can be assigned once the value is built
  mutable : Bool := false
deriving DecidableEq, Repr

structure Signature where
  types : List TypeRef
deriving DecidableEq, Repr

def Signature.text (s : Signature) : String :=
  "(" ++ ", ".intercalate (s.types.map TypeRef.text) ++ ")"

instance : ToString Signature := ⟨Signature.text⟩

structure Constructor where
  parameters : List Property
deriving DecidableEq, Repr

namespace Constructor

def signature (c : Constructor) : Signature :=
  ⟨c.parameters.map (·.type)⟩

def required (c : Constructor) : List Property :=
  c.parameters.filter (·.required)

def parameter? (c : Constructor) (name : String) : Option Property :=
  c.parameters.find? (·.name = name)

end Constructor

structure TypeDescriptor where
  name : String
  properties : List Property := []
  constructors : List Constructor := []
deriving DecidableEq, Repr

namespace TypeDescriptor

def package (d : TypeDescriptor) : String :=
  Text.packageName d.name

def simpleName (d : TypeDescriptor) : String :=
  Text.simpleName d.name

def property? (d : TypeDescriptor) (name : String) : Option Property :=
  d.properties.find? (·.name = name)

def propertyNames (d : TypeDescriptor) : List String :=
  d.properties.map (·.name)

def mutableProperties (d : TypeDescriptor) : List Property :=
  d.properties.filter (·.mutable)

end TypeDescriptor

end ObjectMapping
