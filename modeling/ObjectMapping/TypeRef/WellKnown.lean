import ObjectMapping.TypeRef.Basic

namespace ObjectMapping.TypeRef

def numericNames : List String :=
  ["Byte", "Short", "Int", "Long", "Float", "Double"]

def iterableNames : List String :=
  ["Iterable", "Collection", "List", "MutableList", "Set", "MutableSet", "Array"]

def mapNames : List String :=
  ["Map", "MutableMap"]

def isPlain (t : TypeRef) (name : String) : Bool :=
  t.arguments.isEmpty && t.simpleName = name

def isNumeric (t : TypeRef) : Bool :=
  t.arguments.isEmpty && t.simpleName ∈ numericNames

def isIterable (t : TypeRef) : Bool :=
  t.simpleName ∈ iterableNames

def isMap (t : TypeRef) : Bool :=
  t.simpleName ∈ mapNames

end ObjectMapping.TypeRef
