import ObjectMapping.TypeRef.Basic

namespace ObjectMapping

inductive NullHandling where
  -- both sides allow null or both forbid it
  | none
  -- the target allows null, which the source does not
  | widen
  -- null stays null, and other values are converted
  | propagate
  -- the value is taken to be there although its type allows null
  | unsafeUnwrap
deriving DecidableEq, Repr

structure ConverterRef where
  index : Nat
  name : String
  priority : UInt32
deriving DecidableEq, Repr

def ConverterRef.text (c : ConverterRef) : String :=
  s!"{c.name}#{c.index} (priority {c.priority})"

instance : ToString ConverterRef := ⟨ConverterRef.text⟩

/-- One conversion. Without a converter the value is assigned as it is. The elements are the
conversions of the parts of a container, one for each type argument. -/
structure ConversionStep where
  source : TypeRef
  target : TypeRef
  nullHandling : NullHandling
  converter : Option ConverterRef := none
  elements : List ConversionStep := []
deriving Repr

namespace ConversionStep

mutual

def decEq : (s t : ConversionStep) → Decidable (s = t)
  | ⟨a, b, n, c, es⟩, ⟨a', b', n', c', es'⟩ =>
    match decEqAll es es' with
    | isTrue hes =>
      if h : a = a' ∧ b = b' ∧ n = n' ∧ c = c' then
        isTrue (by rw [hes, h.1, h.2.1, h.2.2.1, h.2.2.2])
      else isFalse (by intro e; injection e with h₁ h₂ h₃ h₄; exact h ⟨h₁, h₂, h₃, h₄⟩)
    | isFalse hes => isFalse (by intro e; injection e with _ _ _ _ h; exact hes h)

def decEqAll : (ss ts : List ConversionStep) → Decidable (ss = ts)
  | [], [] => isTrue rfl
  | [], _ :: _ => isFalse nofun
  | _ :: _, [] => isFalse nofun
  | s :: ss, t :: ts =>
    match decEq s t, decEqAll ss ts with
    | isTrue h, isTrue hs => isTrue (by rw [h, hs])
    | isFalse h, _ => isFalse (by intro e; injection e with h' _; exact h h')
    | _, isFalse hs => isFalse (by intro e; injection e with _ hs'; exact hs hs')

end

instance : DecidableEq ConversionStep := decEq

def direct (source target : TypeRef) (nullHandling : NullHandling) : ConversionStep :=
  { source, target, nullHandling }

def isDirect (s : ConversionStep) : Bool :=
  s.converter.isNone

mutual

def unwraps : ConversionStep → Bool
  | ⟨_, _, nullHandling, _, elements⟩ => nullHandling = .unsafeUnwrap || anyUnwraps elements

def anyUnwraps : List ConversionStep → Bool
  | [] => false
  | s :: rest => unwraps s || anyUnwraps rest

end

end ConversionStep

end ObjectMapping
