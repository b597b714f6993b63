import ObjectMapping.Json.Fraction
import ObjectMapping.Json.Value
import ObjectMapping.Text.Columns

namespace ObjectMapping.Json

def hexChar (n : Nat) : Char :=
  if n < 10 then Char.ofNat ('0'.toNat + n) else Char.ofNat ('a'.toNat + (n - 10))

def escapeChar (c : Char) : List Char :=
  match c with
  | '"' => ['\\', '"']
  | '\\' => ['\\', '\\']
  | '\x08' => ['\\', 'b']
  | '\x0c' => ['\\', 'f']
  | '\n' => ['\\', 'n']
  | '\r' => ['\\', 'r']
  | '\t' => ['\\', 't']
  | c =>
    if c.toNat < 0x20 then ['\\', 'u', '0', '0', hexChar (c.toNat / 16), hexChar (c.toNat % 16)]
    else [c]

def quoted (s : String) : String :=
  String.ofList ('"' :: (s.toList.flatMap escapeChar ++ ['"']))

def lineBreak (level : Nat) : String :=
  Text.padRight (2 * level + 1) "\n"

mutual

def compact : Json → String
  | null => "null"
  | bool value => if value then "true" else "false"
  | integer value => toString value
  | fraction value => fractionText value
  | text value => quoted value
  | array [] => "[]"
  | array (item :: rest) => "[" ++ compact item ++ compactItems rest
  | object [] => "\x7b\x7d"
  | object ((key, value) :: rest) =>
    "\x7b" ++ quoted key ++ ":" ++ compact value ++ compactMembers rest

def compactItems : List Json → String
  | [] => "]"
  | item :: rest => "," ++ compact item ++ compactItems rest

def compactMembers : List (String × Json) → String
  | [] => "\x7d"
  | (key, value) :: rest => "," ++ quoted key ++ ":" ++ compact value ++ compactMembers rest

end

mutual

def indentedAt (level : Nat) : Json → String
  | array (item :: rest) =>
    "[" ++ lineBreak (level + 1) ++ indentedAt (level + 1) item ++ indentedItems level rest
  | object ((key, value) :: rest) =>
    "\x7b" ++ lineBreak (level + 1) ++ quoted key ++ ": " ++ indentedAt (level + 1) value
      ++ indentedMembers level rest
  | null => "null"
  | bool value => if value then "true" else "false"
  | integer value => toString value
  | fraction value => fractionText value
  | text value => quoted value
  | array [] => "[]"
  | object [] => "\x7b\x7d"

def indentedItems (level : Nat) : List Json → String
  | [] => lineBreak level ++ "]"
  | item :: rest =>
    "," ++ lineBreak (level + 1) ++ indentedAt (level + 1) item ++ indentedItems level rest

def indentedMembers (level : Nat) : List (String × Json) → String
  | [] => lineBreak level ++ "\x7d"
  | (key, value) :: rest =>
    "," ++ lineBreak (level + 1) ++ quoted key ++ ": " ++ indentedAt (level + 1) value
      ++ indentedMembers level rest

end

def indented (j : Json) : String :=
  indentedAt 0 j

/-- Puts a member into a list of members in ascending order of keys, behind those with the same
key. -/
def insertMember (key : String) (value : Json) : List (String × Json) → List (String × Json)
  | [] => [(key, value)]
  | (k, v) :: rest =>
    if key < k then (key, value) :: (k, v) :: rest else (k, v) :: insertMember key value rest

mutual

def sortKeys : Json → Json
  | array items => array (sortKeysOfItems items)
  | object members => object (sortMembers members)
  | other => other

def sortKeysOfItems : List Json → List Json
  | [] => []
  | item :: rest => sortKeys item :: sortKeysOfItems rest

def sortMembers : List (String × Json) → List (String × Json)
  | [] => []
  | (key, value) :: rest => insertMember key (sortKeys value) (sortMembers rest)

end

end ObjectMapping.Json
