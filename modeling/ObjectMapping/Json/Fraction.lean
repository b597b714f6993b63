import ObjectMapping.Decimal.Shortest

namespace ObjectMapping.Json

structure Numeral where
  negative : Bool
  whole : List Nat
  fraction : List Nat
  exponent : Int
  -- whether the number is written without a point and without an exponent
  isInteger : Bool

def ofDigits (digits : List Nat) : Nat :=
  digits.foldl (fun n d => 10 * n + d) 0

def digitValue (c : Char) : Nat :=
  c.toNat - '0'.toNat

def Numeral.ofChars (chars : List Char) : Numeral :=
  let negative := chars.head? == some '-'
  let unsigned := if negative then chars.tail else chars
  let whole := unsigned.takeWhile Char.isDigit
  let behind := unsigned.dropWhile Char.isDigit
  let pointed := behind.head? == some '.'
  let fraction := if pointed then behind.tail.takeWhile Char.isDigit else []
  let exponent := if pointed then behind.tail.dropWhile Char.isDigit else behind
  let signed := exponent.tail
  let power := ofDigits ((signed.dropWhile fun c => !c.isDigit).map digitValue)
  { negative
    whole := whole.map digitValue
    fraction := fraction.map digitValue
    exponent := if signed.head? == some '-' then -power else power
    isInteger := behind.isEmpty }

/-- Appends digits to `significand` as long as it stays below 2 ^ 64, and counts the digits left
over. -/
def accumulate (significand : Nat) : List Nat → Nat × Nat
  | [] => (significand, 0)
  | d :: rest =>
    -- once a digit does not fit, those behind it are only counted
    if 10 * significand + d < 0x10000000000000000 then accumulate (10 * significand + d) rest
    else (significand, rest.length + 1)

def powerOfTen (n : Nat) : Float :=
  Float.ofScientific 1 false n

def divideByPower (x : Float) (n : Nat) : Float :=
  if n ≤ 308 then x / powerOfTen n
  else if x == 0 then x
  else divideByPower (x / powerOfTen 308) (n - 308)
termination_by n

def multiplyByPower? (x : Float) (n : Nat) : Option Float :=
  if n ≤ 308 then
    let product := x * powerOfTen n
    if product.isInf then none else some product
  -- a significand is at least one, so that with any greater power it is out of range
  else if x == 0 then some x
  else none

/-- The value as a floating point number, or nothing if it is out of range. The digits are taken
as far as they fit into 64 bits and scaled by one power of ten. -/
def Numeral.toFloat? (n : Numeral) : Option Float :=
  let (leading, dropped) := accumulate 0 n.whole
  let (significand, unused) := accumulate leading n.fraction
  let exponent := n.exponent + dropped - (n.fraction.length - unused : Nat)
  let x := Float.ofScientific significand false 0
  let scaled :=
    if exponent < 0 then some (divideByPower x exponent.natAbs)
    else multiplyByPower? x exponent.natAbs
  scaled.map fun y => if n.negative then -y else y

/-- The digits of a decimal laid out: positionally, with at least one digit behind the point,
for values from 10 ^ -5 up to 10 ^ 16, otherwise with an exponent and its sign. -/
def layout (digits : List Char) (exponent : Int) : List Char :=
  let point := digits.length + exponent
  if 0 ≤ exponent ∧ point ≤ 16 then
    digits ++ List.replicate exponent.toNat '0' ++ ['.', '0']
  else if 0 < point ∧ point ≤ 16 then
    digits.take point.toNat ++ '.' :: digits.drop point.toNat
  else if -5 < point ∧ point ≤ 0 then
    '0' :: '.' :: (List.replicate (-point).toNat '0' ++ digits)
  else
    let mantissa := if digits.length ≤ 1 then digits else digits.take 1 ++ '.' :: digits.drop 1
    let sign := if 0 < point then '+' else '-'
    mantissa ++ 'e' :: sign :: (toString (point - 1).natAbs).toList

def fractionText (x : Float) : String :=
  -- a negative zero keeps its sign, which only its bits tell
  let bits := x.toBits
  let magnitude := bits &&& 0x7FFFFFFFFFFFFFFF
  let unsigned :=
    if magnitude = 0 then ['0', '.', '0']
    else
      let d := (Decimal.Binary.ofBits magnitude).shortest
      let digits := (toString d.digits).toList
      let zeros := (digits.reverse.takeWhile (· == '0')).length
      layout (digits.take (digits.length - zeros)) (d.exponent + zeros)
  String.ofList (if bits = magnitude then unsigned else '-' :: unsigned)

end ObjectMapping.Json
