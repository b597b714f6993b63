import ObjectMapping.TypeRef.Reader

namespace ObjectMapping

inductive TypePattern where
  | any
  -- a type of this qualified name whose arguments fit the patterns one by one
  | named (name : String) (arguments : List TypePattern)
deriving Inhabited, Repr

namespace TypePattern

mutual

/-- The pattern that a type written with wildcards stands for. What is written behind a wildcard
is dropped, and so is every question mark. -/
def ofType : TypeRef → TypePattern
  | ⟨name, arguments, _⟩ =>
    if name = TypeRef.wildcardName then .any else .named name (ofTypes arguments)

def ofTypes : List TypeRef → List TypePattern
  | [] => []
  | t :: ts => ofType t :: ofTypes ts

end

mutual

def fits : TypePattern → TypeRef → Bool
  | .any, _ => true
  | .named name patterns, ⟨typeName, arguments, _⟩ => name = typeName && fitsAll patterns arguments

def fitsAll : List TypePattern → List TypeRef → Bool
  | [], [] => true
  | p :: ps, t :: ts => fits p t && fitsAll ps ts
  | _, _ => false

end

def read (input : String) : Except TypeRef.ReadError TypePattern :=
  (TypeRef.readPattern input).map ofType

end TypePattern

end ObjectMapping
