import ObjectMapping.Text.Alphanumeric
import ObjectMapping.TypeRef.Basic

/-!
Reading a type from text. The reader goes through the text one character at a time with a stack
of the types whose arguments are open, and stops at the first character behind which no text can
be a type any more.
-/

namespace ObjectMapping.TypeRef

def maxNesting : Nat := 32

inductive ReadError where
  | empty
  -- offsets count the bytes of the text in UTF-8
  | unexpected (found : Char) (offset : Nat) (input : String)
  | unexpectedEnd (input : String)
  | tooDeep (input : String)
  | wildcard (input : String)
deriving DecidableEq, Repr

def ReadError.message : ReadError → String
  | .empty => "empty type reference"
  | .unexpected found offset input =>
    s!"unexpected '{found}' at offset {offset} in '{input}'"
  | .unexpectedEnd input => s!"unexpected end of input in '{input}'"
  | .tooDeep input => s!"type '{input}' nests deeper than {maxNesting} levels"
  | .wildcard input => s!"wildcard '{wildcardName}' is not a concrete type in '{input}'"

def isNameChar (c : Char) : Bool :=
  Text.isAlphanumeric c || c == '_' || c == '.' || c == '$'

namespace Reader

structure Frame where
  name : String
  done : List TypeRef

inductive Place where
  -- nothing yet: a type has to begin
  | start
  -- part of a name, the latest character first
  | name (letters : List Char)
  -- a complete name, behind which arguments or a question mark may follow
  | named (name : String)
  -- a type with arguments, behind which a question mark may follow
  | applied (type : TypeRef)
  -- a type to which nothing can be added
  | complete (type : TypeRef)

structure State where
  place : Place
  frames : List Frame

inductive Refusal where
  | unexpected
  | tooDeep
deriving DecidableEq, Repr

/-- Takes a character behind a complete type: the type becomes an argument of the innermost open
type, and a closing bracket completes that one in turn. -/
def afterType (type : TypeRef) (frames : List Frame) (c : Char) : Except Refusal State :=
  if Text.isBlank c then .ok ⟨.complete type, frames⟩
  else
    match c, frames with
    | ',', frame :: outer => .ok ⟨.start, ⟨frame.name, type :: frame.done⟩ :: outer⟩
    | '>', frame :: outer =>
      .ok ⟨.applied { name := frame.name, arguments := (type :: frame.done).reverse }, outer⟩
    | _, _ => .error .unexpected

def afterArguments (type : TypeRef) (frames : List Frame) (c : Char) : Except Refusal State :=
  if Text.isBlank c then .ok ⟨.applied type, frames⟩
  else if c = '?' then .ok ⟨.complete type.toNullable, frames⟩
  else afterType type frames c

def afterName (name : String) (frames : List Frame) (c : Char) : Except Refusal State :=
  if Text.isBlank c then .ok ⟨.named name, frames⟩
  else if c = '<' then
    if frames.length < maxNesting then .ok ⟨.start, ⟨name, []⟩ :: frames⟩
    else .error .tooDeep
  else afterArguments { name } frames c

def State.step (s : State) (c : Char) : Except Refusal State :=
  match s.place with
  | .start =>
    if Text.isBlank c then .ok s
    -- a wildcard is a name by itself, and no letters may follow it
    else if c = '*' then .ok ⟨.named wildcardName, s.frames⟩
    else if isNameChar c then .ok ⟨.name [c], s.frames⟩
    else .error .unexpected
  | .name letters =>
    if isNameChar c then .ok ⟨.name (c :: letters), s.frames⟩
    else afterName (String.ofList letters.reverse) s.frames c
  | .named name => afterName name s.frames c
  | .applied type => afterArguments type s.frames c
  | .complete type => afterType type s.frames c

def State.finish? (s : State) : Option TypeRef :=
  match s.place, s.frames with
  | .name letters, [] => some { name := String.ofList letters.reverse }
  | .named name, [] => some { name }
  | .applied type, [] => some type
  | .complete type, [] => some type
  | _, _ => none

def State.run (input : String) (offset : Nat) (s : State) : List Char → Except ReadError TypeRef
  | [] =>
    match s.finish? with
    | some type => .ok type
    | none => .error (.unexpectedEnd input)
  | c :: rest =>
    match s.step c with
    | .ok next => next.run input (offset + c.utf8Size) rest
    -- the offset is that of the first byte of the character
    | .error .unexpected => .error (.unexpected c offset input)
    | .error .tooDeep => .error (.tooDeep input)

def State.initial : State := ⟨.start, []⟩

end Reader

def readPattern (input : String) : Except ReadError TypeRef :=
  if input.toList.all Text.isBlank then .error .empty
  else Reader.State.initial.run input 0 input.toList

def requireConcrete (input : String) (type : TypeRef) : Except ReadError TypeRef :=
  if type.hasWildcard then .error (.wildcard input) else .ok type

def read (input : String) : Except ReadError TypeRef :=
  -- the whole text has to be a type before a wildcard in it counts
  readPattern input >>= requireConcrete input

end ObjectMapping.TypeRef
