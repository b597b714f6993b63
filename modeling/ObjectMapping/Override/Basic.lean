namespace ObjectMapping

inductive OverrideKind where
  -- the source property of this name
  | source (name : String)
  -- a literal, taken as it is
  | constant (value : String)
  -- an expression, taken as it is
  | expression (text : String)
  | ignore
deriving DecidableEq, Repr

structure Override where
  target : String
  kind : OverrideKind
deriving DecidableEq, Repr

/-- An override as it is declared. Of source, constant and expression at most one may be given;
with none of them the property is read from the source property of its own name. -/
structure OverrideDecl where
  target : String := ""
  source : Option String := none
  constant : Option String := none
  expression : Option String := none
  -- leaves the property alone, whatever else is given
  ignore : Bool := false
deriving DecidableEq, Repr

structure Conflict where
  target : String
  kinds : List String
deriving DecidableEq, Repr

def Conflict.message (c : Conflict) : String :=
  s!"conflicting override for target '{c.target}': " ++ ", ".intercalate c.kinds

namespace OverrideDecl

def given (d : OverrideDecl) : List String :=
  (if d.source.isSome then ["source"] else []) ++
    (if d.constant.isSome then ["constant"] else []) ++
    (if d.expression.isSome then ["expression"] else [])

def kind (d : OverrideDecl) : OverrideKind :=
  match d.constant, d.expression, d.source with
  | some value, _, _ => .constant value
  | none, some text, _ => .expression text
  | none, none, some name => .source name
  | none, none, none => .source d.target

def validate (d : OverrideDecl) : Except Conflict Override :=
  if d.ignore then .ok ⟨d.target, .ignore⟩
  else if 1 < d.given.length then .error ⟨d.target, d.given⟩
  else .ok ⟨d.target, d.kind⟩

end OverrideDecl

end ObjectMapping
