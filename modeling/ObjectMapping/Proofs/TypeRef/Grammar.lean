import ObjectMapping.TypeRef.Reader

/-!
The grammar of types

    type := name ('<' type (',' type)* '>')? '?'?
    name := (letter | number | '_' | '.' | '$')+ | '*'

with blanks allowed around every token: those before a name belong to it, and so do those behind
any token. A derivation of a text carries the type it stands for.
-/

namespace ObjectMapping.TypeRef

def Blank (x : List Char) : Prop :=
  ∀ c ∈ x, Text.isBlank c = true

inductive IsName : List Char → Prop where
  | wildcard : IsName ['*']
  | letters {x : List Char} (hne : x ≠ []) (hx : ∀ c ∈ x, isNameChar c = true) : IsName x

inductive Head : List Char → String → Prop where
  | intro {b x a : List Char} (hb : Blank b) (hx : IsName x) (ha : Blank a) :
      Head (b ++ (x ++ a)) (String.ofList x)

inductive Mark : List Char → Bool → Prop where
  | absent : Mark [] false
  | present {a : List Char} (ha : Blank a) : Mark ('?' :: a) true

mutual

/-- The text is a type, and the derivation has the given tree. -/
inductive Derives : List Char → TypeRef → Prop where
  | type {x y z : List Char} {name : String} {arguments : List TypeRef} {nullable : Bool}
      (hx : Head x name) (hy : DerivesArguments y arguments) (hz : Mark z nullable) :
      Derives (x ++ (y ++ z)) ⟨name, arguments, nullable⟩

inductive DerivesArguments : List Char → List TypeRef → Prop where
  | none : DerivesArguments [] []
  | some {x a : List Char} {types : List TypeRef} (hx : DerivesList x types) (ha : Blank a) :
      DerivesArguments ('<' :: (x ++ '>' :: a)) types

inductive DerivesList : List Char → List TypeRef → Prop where
  | one {x : List Char} {type : TypeRef} (hx : Derives x type) : DerivesList x [type]
  | more {x y : List Char} {type : TypeRef} {types : List TypeRef} (hx : Derives x type)
      (hy : DerivesList y types) : DerivesList (x ++ ',' :: y) (type :: types)

end

mutual

def nesting : TypeRef → Nat
  | ⟨_, arguments, _⟩ => nestingOf arguments

def nestingOf : List TypeRef → Nat
  | [] => 0
  | t :: ts => max (nesting t + 1) (nestingOf ts)

end

/-- A mark adds no level. -/
@[simp]
theorem nesting_toNullable (type : TypeRef) : type.toNullable.nesting = type.nesting := by
  cases type
  rfl

theorem add_nestingOf_cons_le_iff {type : TypeRef} {types : List TypeRef} {m n : Nat} :
    m + nestingOf (type :: types) ≤ n ↔ m + 1 + type.nesting ≤ n ∧ m + nestingOf types ≤ n := by
  simp only [nestingOf]
  omega

/-- Arguments stay within a limit if each of them does, one level further in. -/
theorem add_nestingOf_le_iff {types : List TypeRef} {m n : Nat} :
    m + nestingOf types ≤ n ↔ m ≤ n ∧ ∀ t ∈ types, m + 1 + t.nesting ≤ n := by
  induction types with
  | nil => simp [nestingOf]
  | cons t ts ih =>
    rw [add_nestingOf_cons_le_iff, ih, List.forall_mem_cons]
    exact and_left_comm

theorem Blank.singleton {c : Char} (hc : Text.isBlank c = true) : Blank [c] := by
  intro d hd
  rwa [List.mem_singleton.1 hd]

theorem Blank.append {x y : List Char} (hx : Blank x) (hy : Blank y) : Blank (x ++ y) := by
  intro c hc
  exact (List.mem_append.1 hc).elim (hx c) (hy c)

theorem DerivesList.one_le_nestingOf {x : List Char} {types : List TypeRef}
    (h : DerivesList x types) : 1 ≤ nestingOf types := by
  cases h <;> simp only [nestingOf] <;> omega

/-- A list of types goes on with one more type behind a comma. -/
theorem DerivesList.snoc {x y : List Char} {type : TypeRef} (hy : Derives y type) :
    {types : List TypeRef} → (hx : DerivesList x types) →
      DerivesList (x ++ ',' :: y) (types ++ [type])
  | _, .one hx => .more hx (.one hy)
  | _, .more hx hxs => by
    rw [List.append_assoc]
    exact .more hx (snoc hy hxs)

end ObjectMapping.TypeRef
