import ObjectMapping.Json.Decode
import ObjectMapping.Text.CharClass

namespace ObjectMapping

inductive ConfigError where
  -- the value does not suit the option
  | invalidOption (key reason : String)
  -- the text is no assignment
  | malformedOption (assignment : String)
deriving DecidableEq, Repr

def ConfigError.message : ConfigError → String
  | .invalidOption key reason => s!"invalid configuration option '{key}': {reason}"
  | .malformedOption assignment => s!"malformed option '{assignment}', expected key=value"

inductive OptionValue where
  | bool (value : Bool)
  | integer (value : Nat)
  | text (value : String)
deriving DecidableEq, Repr

namespace OptionValue

def integerBound : Nat := 0x10000000000000000

/-- The number that a list of decimal digits denotes, if it lies below the bound. At least one
digit is needed. -/
def ofDigits? (digits : List Char) : Option Nat :=
  if digits.isEmpty || !digits.all Char.isDigit then none
  else
    let value := digits.foldl (fun n c => 10 * n + (c.toNat - '0'.toNat)) 0
    if value < integerBound then some value else none

def parseInteger? (s : String) : Option Nat :=
  match s.toList with
  -- a plus sign may precede the digits, but only one
  | '+' :: digits => ofDigits? digits
  | digits => ofDigits? digits

def asBool? : OptionValue → Option Bool
  | bool value => some value
  | integer _ => none
  | text value =>
    let trimmed := Text.trim value
    if trimmed = "true" then some true else if trimmed = "false" then some false else none

def asInteger? : OptionValue → Option Nat
  | bool _ => none
  | integer value => some value
  | text value => parseInteger? (Text.trim value)

def asText : OptionValue → String
  | bool value => if value then "true" else "false"
  | integer value => toString value
  | text value => value

/-- Splits an assignment at its first equals sign. Blanks around the key and the value do not
count, and the key may not be empty. -/
def parseAssignment (assignment : String) : Except ConfigError (String × OptionValue) :=
  let chars := assignment.toList
  let key := Text.trim (String.ofList (chars.takeWhile (· != '=')))
  match chars.dropWhile (· != '=') with
  | _ :: value =>
    if key.isEmpty then .error (.malformedOption assignment)
    else .ok (key, text (Text.trim (String.ofList value)))
  | [] => .error (.malformedOption assignment)

def toJson : OptionValue → Json
  | bool value => .bool value
  | integer value => .integer value
  | text value => .text value

def ofJson : Json → Except Json.DecodeError OptionValue
  | .bool value => .ok (bool value)
  | .text value => .ok (text value)
  | .integer value =>
    if 0 ≤ value then .ok (integer value.toNat) else .error (.noVariant "OptionValue")
  | _ => .error (.noVariant "OptionValue")

end OptionValue

end ObjectMapping
