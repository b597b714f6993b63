import ObjectMapping.Json.Decode

/-!
Outlines of documents: which parts of a document are looked at, and what they have to be. A reader
that is given one finds the faults in the order of the text, and passes over the rest, where less
can go wrong.
-/

namespace ObjectMapping.Json

abbrev Check := Json → Except DecodeError Unit

def decodes {α : Type} (decode : Json → Except DecodeError α) : Check := fun j => do
  discard (decode j)

inductive Outline where
  | skipped
  -- anything, all of which is looked at
  | whole (check : Check)
  -- a text, a number or a word
  | single (check : Check)
  -- an array of items
  | list (check : Check) (item : Outline)
  -- an object of which all members are looked at
  | table (check : Check) (value : Outline)
  -- a record: an object with its fields by name, or an array with its fields in order
  | record (check : Check) (fields : List (String × Outline))

namespace Outline

def anything : Outline :=
  whole fun _ => .ok ()

def ofValue {α : Type} (decode : Json → Except DecodeError α) : Outline :=
  single (decodes decode)

def ofItems {α : Type} (decode : Json → Except DecodeError α) (item : Outline) : Outline :=
  list (decodes (asList decode)) item

def ofFields {α : Type} (decode : Json → Except DecodeError α)
    (fields : List (String × Outline)) : Outline :=
  record (decodes decode) fields

def isSkipped : Outline → Bool
  | skipped => true
  | _ => false

def check : Outline → Check
  | skipped => fun _ => .ok ()
  | whole check | single check | list check _ | table check _ | record check _ => check

/-- The outline of what an array in this place holds. It is passed over if none belongs here. -/
def ofArray : Outline → Outline
  | single _ | table _ _ => skipped
  | outline => outline

def ofObject : Outline → Outline
  | single _ | list _ _ => skipped
  | outline => outline

def item : Outline → Outline
  | whole _ => anything
  | list _ item => item
  | record _ ((_, field) :: _) => field
  | _ => skipped

def rest : Outline → Outline
  | record check (_ :: fields) => record check fields
  | outline => outline

/-- Whether an array has to end, since it holds all fields of its record. -/
def isExhausted : Outline → Bool
  | record _ [] => true
  | _ => false

def member (key : String) : Outline → Outline
  | whole _ => anything
  | table _ value => value
  | record _ fields => (fields.lookup key).getD skipped
  | _ => skipped

def isField (key : String) : Outline → Bool
  | record _ fields => (fields.lookup key).isSome
  | _ => false

end Outline

end ObjectMapping.Json
