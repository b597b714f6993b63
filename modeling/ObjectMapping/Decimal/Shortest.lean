/-!
The shortest decimal that reads back as a given binary number. All comparisons are exact, on
natural numbers.
-/

namespace ObjectMapping.Decimal

/-- A positive binary number `mantissa * 2 ^ exponent`. The gap to the next number below is half
the gap to the one above exactly when `narrowBelow` is set. -/
structure Binary where
  mantissa : Nat
  exponent : Int
  narrowBelow : Bool

def Binary.ofBits (bits : UInt64) : Binary :=
  let exponent := ((bits >>> 52) &&& 0x7FF).toNat
  let fraction := (bits &&& 0xFFFFFFFFFFFFF).toNat
  -- numbers below the least normal one are evenly spaced
  if exponent = 0 then ⟨fraction, -1074, false⟩
  else ⟨0x10000000000000 + fraction, exponent - 1075, fraction = 0 && exponent > 1⟩

structure Scientific where
  digits : Nat
  exponent : Int
deriving DecidableEq, Repr

def power (base : Nat) (exponent : Int) : Nat :=
  base.pow exponent.toNat

def compareScaled (a : Nat) (i : Int) (b : Nat) (j : Int) : Ordering :=
  compare (a * power 10 i * power 2 (-j)) (b * power 2 j * power 10 (-i))

/-- Whether `d` lies among the numbers that are rounded to `x`, where a number halfway between
two neighbours goes to the even one. -/
def Binary.readsBack (x : Binary) (d : Scientific) : Bool :=
  let low := if x.narrowBelow then 4 * x.mantissa - 1 else 4 * x.mantissa - 2
  let ends := x.mantissa % 2 == 0
  let below := compareScaled d.digits d.exponent low (x.exponent - 2)
  let above := compareScaled d.digits d.exponent (4 * x.mantissa + 2) (x.exponent - 2)
  (below == .gt || ends && below == .eq) && (above == .lt || ends && above == .eq)

def Binary.scaleFrom (x : Binary) (start : Int) : Nat → Int
  | 0 => start
  | steps + 1 =>
    if compareScaled 1 start x.mantissa x.exponent == .gt then start
    else x.scaleFrom (start + 1) steps

/-- The least `k` for which `x` lies below `10 ^ k`. The search starts just below the estimate
from the binary logarithm, of which a thousand binary places are 301 decimal ones. -/
def Binary.scale (x : Binary) : Int :=
  x.scaleFrom (((x.mantissa.log2 + x.exponent) * 30103).fdiv 100000 - 1) 4

def Binary.floorAt (x : Binary) (exponent : Int) : Nat :=
  x.mantissa * power 2 x.exponent * power 10 (-exponent)
    / (power 2 (-x.exponent) * power 10 exponent)

/-- The neighbour of `x` on the grid of multiples of `10 ^ exponent` that reads back as `x`, the
nearer one if both do and the even one if both are equally near. -/
def Binary.onGrid? (x : Binary) (exponent : Int) : Option Scientific :=
  let below := x.floorAt exponent
  let low : Scientific := ⟨below, exponent⟩
  let high : Scientific := ⟨below + 1, exponent⟩
  match x.readsBack low, x.readsBack high with
  | false, false => none
  | true, false => some low
  | false, true => some high
  | true, true =>
    match compareScaled (2 * below + 1) exponent (2 * x.mantissa) x.exponent with
    | .lt => some high
    | .gt => some low
    | .eq => some (if below % 2 = 0 then low else high)

def Binary.shortest (x : Binary) : Scientific :=
  let scale := x.scale
  ((List.range 17).findSome? fun n : Nat => x.onGrid? (scale - (n + 1))).getD ⟨x.floorAt 0, 0⟩

end ObjectMapping.Decimal
