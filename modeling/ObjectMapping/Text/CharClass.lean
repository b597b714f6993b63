namespace ObjectMapping.Text

/-- A class of characters: closed ranges of code points, ascending and apart. -/
structure CharClass where
  ranges : List (Nat × Nat)

namespace CharClass

/-- Whether `n` lies in one of the ranges, which are read in ascending order up to the first
that begins beyond `n`. -/
def covers (n : Nat) : List (Nat × Nat) → Bool
  | [] => false
  | (low, high) :: rest => low ≤ n && (n ≤ high || covers n rest)

def contains (k : CharClass) (c : Char) : Bool :=
  covers c.toNat k.ranges

end CharClass

def blank : CharClass where
  ranges :=
    [(0x09, 0x0D), (0x20, 0x20), (0x85, 0x85), (0xA0, 0xA0), (0x1680, 0x1680), (0x2000, 0x200A),
     (0x2028, 0x2029), (0x202F, 0x202F), (0x205F, 0x205F), (0x3000, 0x3000)]

def isBlank (c : Char) : Bool :=
  blank.contains c

def trim (s : String) : String :=
  String.ofList (((s.toList.dropWhile isBlank).reverse.dropWhile isBlank).reverse)

end ObjectMapping.Text
