import ObjectMapping.Json.Outline

/-!
Reading a JSON document from text, one character at a time with a stack of the arrays and objects
that are open. An outline tells which parts are looked at, and each of them is tested as soon as
it is complete, so that of several faults the first in the text is found. The parts passed over
may be nested to any depth and may hold numbers out of range and unpaired surrogates, since their
numbers and texts are read as null.
-/

namespace ObjectMapping.Json

inductive Fault where
  | malformed (error : ReadError)
  | invalid (error : DecodeError)
deriving DecidableEq, Repr

def Fault.message : Fault → String
  | malformed error => error.message
  | invalid error => error.message

namespace Reader

def maxDepth : Nat := 127

/-- An open array or object: what is complete in it, the latest first, and what it has to be. -/
inductive Frame where
  -- the last is the outline of what is left of the array
  | array (done : List Json) (outline rest : Outline)
  -- the key is the one whose value is being read
  | object (done : List (String × Json)) (key : Option String) (outline : Outline)

inductive Place where
  -- a value with the given outline must follow
  | value (outline : Outline)
  | firstItem
  | laterItem
  | behindItem
  -- behind a comma where all fields of a record are there
  | behindFields
  | firstKey
  | laterKey
  | behindKey
  | behindMember

inductive NumberPart where
  | minus
  | zero
  | whole
  | point
  | fraction
  | exponentMark
  | exponentSign
  | exponent

inductive TextPart where
  | plain
  | escape (high : Option Nat)
  -- the four bytes behind an escape that are to be hexadecimal digits: how many are read, and their
  -- value unless one of them is no digit
  | hex (high : Option Nat) (count : Nat) (value : Option Nat)
  | surrogate (high : Nat)
  | closed

structure OpenText where
  -- whether the text is passed over
  skipped : Bool
  part : TextPart := .plain
  done : List Char := []

inductive State where
  | between (place : Place) (frames : List Frame)
  | word (rest : List Char) (value : Json) (outline : Outline) (frames : List Frame)
  | number (part : NumberPart) (done : List Char) (outline : Outline) (frames : List Frame)
  | text (content : OpenText) (outline : Outline) (frames : List Frame)
  | key (content : OpenText) (frames : List Frame)
  | finished (value : Json)

def fail {α : Type} (error : ReadError) : Except Fault α :=
  .error (.malformed error)

def isSpace (c : Char) : Bool :=
  c == ' ' || c == '\n' || c == '\t' || c == '\r'

/-! ### Arrays and objects -/

def innerOutline : List Frame → Outline
  | .array _ _ rest :: _ => rest
  | .object _ _ outline :: _ => outline
  | [] => .skipped

def isSkipping (frames : List Frame) : Bool :=
  (innerOutline frames).isSkipped

def memberOutline : List Frame → Outline
  | .object _ (some key) outline :: _ => outline.member key
  | _ => .skipped

def attach (value : Json) : List Frame → State
  | [] => .finished value
  | .array done outline rest :: outer =>
    .between .behindItem (.array (value :: done) outline rest.rest :: outer)
  | .object done (some key) outline :: outer =>
    .between .behindMember (.object ((key, value) :: done) none outline :: outer)
  | .object done none outline :: outer =>
    .between .behindMember (.object done none outline :: outer)

def complete (outline : Outline) (value : Json) (frames : List Frame) : Except Fault State := do
  (outline.check value).mapError .invalid
  return attach value frames

/-- Opens an array or object, which is `empty` so far. One that does not belong here is rejected at
once, and one that is looked at may not be nested too deep. -/
def enter (place : Place) (outline inner : Outline) (empty : Json) (frame : Frame)
    (frames : List Frame) : Except Fault State := do
  if inner.isSkipped then (outline.check empty).mapError .invalid
  else if maxDepth ≤ frames.length then fail .tooDeep
  return .between place (frame :: frames)

def beginValue (outline : Outline) (frames : List Frame) (c : Char) : Except Fault State :=
  match c with
  | '[' =>
    let inner := outline.ofArray
    enter .firstItem outline inner (.array []) (.array [] outline inner) frames
  | '{' =>
    let inner := outline.ofObject
    enter .firstKey outline inner (.object []) (.object [] none inner) frames
  | '"' => .ok (.text { skipped := outline.isSkipped } outline frames)
  | 'n' => .ok (.word ['u', 'l', 'l'] .null outline frames)
  | 't' => .ok (.word ['r', 'u', 'e'] (.bool true) outline frames)
  | 'f' => .ok (.word ['a', 'l', 's', 'e'] (.bool false) outline frames)
  | '-' => .ok (.number .minus [c] outline frames)
  | '0' => .ok (.number .zero [c] outline frames)
  | c => if c.isDigit then .ok (.number .whole [c] outline frames) else fail .expectedValue

def beginItem (frames : List Frame) (c : Char) : Except Fault State :=
  beginValue (innerOutline frames).item frames c

def beginKey (frames : List Frame) : State :=
  .key { skipped := isSkipping frames } frames

def close : List Frame → Except Fault State
  | .array done outline _ :: outer => complete outline (.array done.reverse) outer
  | .object done _ outline :: outer => complete outline (.object done.reverse) outer
  | [] => fail .trailingCharacters

def closeKey (key : String) : List Frame → Except Fault State
  | .object done _ outline :: outer =>
    -- any other key may be repeated
    if outline.isField key && done.any (·.1 == key) then .error (.invalid (.duplicateField key))
    else .ok (.between .behindKey (.object done (some key) outline :: outer))
  | frames => .ok (.between .behindKey frames)

def stepBehindItem (frames : List Frame) (c : Char) : Except Fault State :=
  -- a record has no items behind its last field, and what stands there is met at once
  let isExhausted := (innerOutline frames).isExhausted
  if c = ']' then close frames
  else if c = ',' then .ok (.between (if isExhausted then .behindFields else .laterItem) frames)
  else fail (if isExhausted then .trailingCharacters else .expectedCommaOrBracket)

def stepBetween (place : Place) (frames : List Frame) (c : Char) : Except Fault State :=
  if isSpace c then .ok (.between place frames)
  else
    match place with
    | .value outline => beginValue outline frames c
    | .firstItem => if c = ']' then close frames else beginItem frames c
    | .laterItem =>
      -- where nothing is looked at, the bracket is taken for the item that is missing
      if c = ']' && !isSkipping frames then fail .trailingComma else beginItem frames c
    | .behindItem => stepBehindItem frames c
    | .behindFields => fail (if c = ']' then .trailingComma else .trailingCharacters)
    | .firstKey =>
      if c = '"' then .ok (beginKey frames)
      else if c = '}' then close frames
      else fail .keyNotText
    | .laterKey =>
      if c = '"' then .ok (beginKey frames)
      else if c = '}' && !isSkipping frames then fail .trailingComma
      else fail .keyNotText
    | .behindKey =>
      if c = ':' then .ok (.between (.value (memberOutline frames)) frames)
      else fail .expectedColon
    | .behindMember =>
      if c = ',' then .ok (.between .laterKey frames)
      else if c = '}' then close frames
      else fail .expectedCommaOrBrace

def eofBetween (frames : List Frame) : Place → ReadError
  | .value _ | .laterItem => .eofInValue
  | .firstItem | .behindItem => .eofInArray
  | .behindFields => .trailingCharacters
  | .laterKey => if isSkipping frames then .eofInObject else .eofInValue
  | .firstKey | .behindKey | .behindMember => .eofInObject

/-! ### Numbers -/

def NumberPart.next? (c : Char) : NumberPart → Option NumberPart
  | .minus => if c = '0' then some .zero else if c.isDigit then some .whole else none
  | .zero => behindWhole
  | .whole => if c.isDigit then some .whole else behindWhole
  | .point => if c.isDigit then some .fraction else none
  | .fraction => if c.isDigit then some .fraction else mark
  | .exponentMark =>
    if c = '+' || c = '-' then some .exponentSign else if c.isDigit then some .exponent else none
  | .exponentSign => if c.isDigit then some .exponent else none
  | .exponent => if c.isDigit then some .exponent else none
where
  mark := if c = 'e' || c = 'E' then some .exponentMark else none
  behindWhole := if c = '.' then some .point else mark

def NumberPart.isComplete : NumberPart → Bool
  | .zero | .whole | .fraction | .exponent => true
  | _ => false

/-- The value of a complete number. Integers are kept as such as far as 64 bits reach. -/
def numberValue (n : Numeral) : Except ReadError Json :=
  let magnitude := ofDigits n.whole
  let signed : Int := if n.negative then -magnitude else magnitude
  let fits : Bool := -0x8000000000000000 ≤ signed && signed < 0x10000000000000000
  -- a negative zero is no integer
  if n.isInteger && fits && !(n.negative && magnitude == 0) then .ok (.integer signed)
  else
    match n.toFloat? with
    | some x => .ok (.fraction x)
    | none => .error .numberOutOfRange

def closeNumber (done : List Char) (outline : Outline) (frames : List Frame) :
    Except Fault State := do
  -- what is passed over is never out of range
  if outline.isSkipped then return attach .null frames
  complete outline (← (numberValue (.ofChars done.reverse)).mapError .malformed) frames

/-! ### Texts -/

def hexDigit? (c : Char) : Option Nat :=
  if c.isDigit then some (c.toNat - '0'.toNat)
  else if 'a' ≤ c ∧ c ≤ 'f' then some (c.toNat - 'a'.toNat + 10)
  else if 'A' ≤ c ∧ c ≤ 'F' then some (c.toNat - 'A'.toNat + 10)
  else none

def escaped? : Char → Option Char
  | '"' => some '"'
  | '\\' => some '\\'
  | '/' => some '/'
  | 'b' => some '\x08'
  | 'f' => some '\x0c'
  | 'n' => some '\n'
  | 'r' => some '\r'
  | 't' => some '\t'
  | _ => none

namespace OpenText

def push (t : OpenText) (c : Char) : OpenText :=
  { t with done := c :: t.done, part := .plain }

def pushUnit (t : OpenText) (high : Option Nat) (unit : Nat) : Except ReadError OpenText :=
  let isHigh := 0xD800 ≤ unit ∧ unit < 0xDC00
  let isLow := 0xDC00 ≤ unit ∧ unit < 0xE000
  if t.skipped then .ok { t with part := .plain }
  else
    match high with
    | none =>
      if isLow then .error .unpairedSurrogate
      else if isHigh then .ok { t with part := .surrogate unit }
      else .ok (t.push (Char.ofNat unit))
    | some high =>
      if isLow then
        .ok (t.push (Char.ofNat (0x10000 + (high - 0xD800) * 0x400 + (unit - 0xDC00))))
      else .error .unpairedSurrogate

def stepPlain (t : OpenText) (c : Char) : Except ReadError OpenText :=
  if c = '"' then .ok { t with part := .closed }
  else if c = '\\' then .ok { t with part := .escape none }
  else if c.toNat < 0x20 then .error .controlCharacter
  else .ok (t.push c)

def stepEscape (t : OpenText) (high : Option Nat) (c : Char) : Except ReadError OpenText :=
  if c = 'u' then .ok { t with part := .hex high 0 (some 0) }
  -- a high surrogate needs another escape with its partner right behind it
  else if high.isSome then .error .endOfHexEscape
  else
    match escaped? c with
    | some plain => .ok (t.push plain)
    | none => .error .invalidEscape

/-- Takes a character that is to be a hexadecimal digit. The escape is judged by all its four
bytes. -/
def stepHex (t : OpenText) (high : Option Nat) (count : Nat) (value : Option Nat) (c : Char) :
    Except ReadError OpenText :=
  let value := value.bind fun n => (hexDigit? c).map (16 * n + ·)
  let count := count + c.utf8Size
  if count < 4 then .ok { t with part := .hex high count value }
  else
    match value with
    | some unit => t.pushUnit high unit
    | none => .error .invalidEscape

def step (t : OpenText) (c : Char) : Except ReadError OpenText :=
  match t.part with
  | .plain => t.stepPlain c
  | .escape high => t.stepEscape high c
  | .hex high count value => t.stepHex high count value c
  | .surrogate high =>
    if c = '\\' then .ok { t with part := .escape (some high) } else .error .endOfHexEscape
  | .closed => .error .trailingCharacters

def content (t : OpenText) : String :=
  String.ofList t.done.reverse

end OpenText

def closeText (t : OpenText) (outline : Outline) (frames : List Frame) : Except Fault State :=
  complete outline (if t.skipped then .null else .text t.content) frames

/-! ### Documents -/

def State.stepBehind (s : State) (c : Char) : Except Fault State :=
  match s with
  | .between place frames => stepBetween place frames c
  | s => if isSpace c then .ok s else fail .trailingCharacters

def State.step (s : State) (c : Char) : Except Fault State :=
  match s with
  | .word [last] value outline frames =>
    if c = last then complete outline value frames else fail .expectedWord
  | .word (next :: rest) value outline frames =>
    if c = next then .ok (.word rest value outline frames) else fail .expectedWord
  | .number part done outline frames => do
    match part.next? c with
    | some part => return .number part (c :: done) outline frames
    | none =>
      -- a number has no zero in front of its digits
      if !part.isComplete || part matches .zero && c.isDigit then fail .invalidNumber
      else (← closeNumber done outline frames).stepBehind c
  | .text t outline frames => do
    let t ← (t.step c).mapError .malformed
    if t.part matches .closed then closeText t outline frames else return .text t outline frames
  | .key t frames => do
    let t ← (t.step c).mapError .malformed
    if t.part matches .closed then closeKey t.content frames else return .key t frames
  | s => s.stepBehind c

def State.finishBehind : State → Except Fault Json
  | .finished value => .ok value
  | .between place frames => fail (eofBetween frames place)
  | _ => fail .eofInValue

def State.finish : State → Except Fault Json
  | .text _ _ _ | .key _ _ => fail .eofInText
  | .number part done outline frames => do
    if part.isComplete then (← closeNumber done outline frames).finishBehind
    else fail (if outline.isSkipped then .invalidNumber else .eofInValue)
  | s => s.finishBehind

end Reader

def read (outline : Outline) (document : String) : Except Fault Json :=
  document.toList.foldlM Reader.State.step (.between (.value outline) []) >>= Reader.State.finish

end ObjectMapping.Json
