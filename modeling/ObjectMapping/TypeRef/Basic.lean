import ObjectMapping.Text.Qualified

namespace ObjectMapping

structure TypeRef where
  name : String
  arguments : List TypeRef := []
  nullable : Bool := false
deriving Inhabited, Repr

namespace TypeRef

mutual

def decEq : (s t : TypeRef) → Decidable (s = t)
  | ⟨n, as, p⟩, ⟨m, bs, q⟩ =>
    match decEqAll as bs with
    | isTrue has =>
      if h : n = m ∧ p = q then isTrue (by rw [has, h.1, h.2])
      else isFalse (by intro e; injection e with hn _ hp; exact h ⟨hn, hp⟩)
    | isFalse has => isFalse (by intro e; injection e with _ h _; exact has h)

def decEqAll : (ss ts : List TypeRef) → Decidable (ss = ts)
  | [], [] => isTrue rfl
  | [], _ :: _ => isFalse nofun
  | _ :: _, [] => isFalse nofun
  | s :: ss, t :: ts =>
    match decEq s t, decEqAll ss ts with
    | isTrue h, isTrue hs => isTrue (by rw [h, hs])
    | isFalse h, _ => isFalse (by intro e; injection e with h' _; exact h h')
    | _, isFalse hs => isFalse (by intro e; injection e with _ hs'; exact hs hs')

end

instance : DecidableEq TypeRef := decEq

def simpleName (t : TypeRef) : String :=
  Text.simpleName t.name

def toNullable (t : TypeRef) : TypeRef :=
  { t with nullable := true }

def toNonNull (t : TypeRef) : TypeRef :=
  { t with nullable := false }

def eqIgnoringNullability (s t : TypeRef) : Bool :=
  s.name = t.name && s.arguments = t.arguments

/-! ### Written form -/

mutual

def toChars : TypeRef → List Char
  | ⟨name, arguments, nullable⟩ =>
    name.toList ++ argumentChars arguments ++ (if nullable then ['?'] else [])

def argumentChars : List TypeRef → List Char
  | [] => []
  | t :: ts => '<' :: (toChars t ++ laterArgumentChars ts)

def laterArgumentChars : List TypeRef → List Char
  | [] => ['>']
  | t :: ts => ',' :: ' ' :: (toChars t ++ laterArgumentChars ts)

end

def text (t : TypeRef) : String :=
  String.ofList t.toChars

instance : ToString TypeRef := ⟨text⟩

/-! ### Wildcards -/

def wildcardName : String := "*"

mutual

def hasWildcard : TypeRef → Bool
  | ⟨name, arguments, _⟩ => name = wildcardName || anyHasWildcard arguments

def anyHasWildcard : List TypeRef → Bool
  | [] => false
  | t :: ts => hasWildcard t || anyHasWildcard ts

end

end TypeRef

end ObjectMapping
