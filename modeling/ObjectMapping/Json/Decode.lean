import ObjectMapping.Json.Fraction
import ObjectMapping.Json.Value
import ObjectMapping.Text.Quoted
import ObjectMapping.TypeRef.Reader

namespace ObjectMapping.Json

inductive DecodeError where
  | missingField (name : String)
  | duplicateField (name : String)
  | wrongType (found expected : String)
  | wrongValue (found expected : String)
  | tooFewItems (count : Nat) (expected : String)
  | tooManyItems (count : Nat)
  -- as `tooManyItems`, for a part of a tagged value, where the number of items is known
  | surplusItems (count most : Nat)
  | unknownVariant (name : String) (known : List String)
  | noVariant (name : String)
  | badType (error : TypeRef.ReadError)
deriving DecidableEq, Repr

def alternatives : List String → String
  | [] => "there are no variants"
  | [a] => s!"`{a}`"
  | [a, b] => s!"`{a}` or `{b}`"
  | names => "one of " ++ ", ".intercalate (names.map fun n => s!"`{n}`")

def elements (count : Nat) : String :=
  if count = 1 then "element" else "elements"

def DecodeError.message : DecodeError → String
  | .missingField name => s!"missing field `{name}`"
  | .duplicateField name => s!"duplicate field `{name}`"
  | .wrongType found expected => s!"invalid type: {found}, expected {expected}"
  | .wrongValue found expected => s!"invalid value: {found}, expected {expected}"
  | .tooFewItems count expected => s!"invalid length {count}, expected {expected}"
  | .tooManyItems count => s!"invalid length {count}, expected fewer elements in array"
  | .surplusItems count most =>
    s!"invalid length {count}, expected {most} {elements most} in sequence"
  | .unknownVariant name [] => s!"unknown variant `{name}`, {alternatives []}"
  | .unknownVariant name known => s!"unknown variant `{name}`, expected {alternatives known}"
  | .noVariant name => s!"data did not match any variant of untagged enum {name}"
  | .badType error => error.message

def form : Json → String
  | null => "null"
  | bool value => s!"boolean `{value}`"
  | integer value => s!"integer `{value}`"
  | fraction value => s!"floating point `{fractionText value}`"
  | text value => "string " ++ Text.quote value
  | array _ => "sequence"
  | object _ => "map"

def reject {α : Type} (expected : String) (j : Json) : Except DecodeError α :=
  .error (.wrongType j.form expected)

/-! ### Single values -/

def asText : Json → Except DecodeError String
  | text value => .ok value
  | j => j.reject "a string"

def asBool : Json → Except DecodeError Bool
  | bool value => .ok value
  | j => j.reject "a boolean"

def asNat (expected : String) : Json → Except DecodeError Nat
  | integer value =>
    if 0 ≤ value then .ok value.toNat else .error (.wrongValue (integer value).form expected)
  | j => j.reject expected

def asSize : Json → Except DecodeError Nat :=
  asNat "usize"

def asWord (j : Json) : Except DecodeError UInt32 := do
  let n ← j.asNat "u32"
  if n < UInt32.size then .ok n.toUInt32 else .error (.wrongValue j.form "u32")

def asType (j : Json) : Except DecodeError TypeRef := do
  (TypeRef.read (← j.asText)).mapError .badType

def asOption {α : Type} (decode : Json → Except DecodeError α) :
    Json → Except DecodeError (Option α)
  | null => .ok none
  | j => some <$> decode j

def asNull (expected : String) : Json → Except DecodeError Unit
  | null => .ok ()
  | j => j.reject expected

def asList {α : Type} (decode : Json → Except DecodeError α) : Json → Except DecodeError (List α)
  | array items => items.mapM decode
  | j => j.reject "a sequence"

def asPair {α β : Type} (first : Json → Except DecodeError α)
    (second : Json → Except DecodeError β) : Json → Except DecodeError (α × β)
  | array [] => .error (.tooFewItems 0 expected)
  | array [a] => do
    -- a fault in the first part comes before the missing second one
    discard (first a)
    .error (.tooFewItems 1 expected)
  | array (a :: b :: rest) => do
    let pair := (← first a, ← second b)
    if rest.isEmpty then return pair else .error (.tooManyItems (rest.length + 2))
  | j => j.reject expected
where
  expected := "a tuple of size 2"

/-! ### Records -/

/-- The fields found in a document that stands for a record: the members of an object, or the
items of an array in the order in which the fields are declared. -/
structure Record where
  -- what a document that is too short should have been, in words
  expected : String
  -- the names of the fields as they are declared
  fields : List String
  fromArray : Bool
  values : List (String × Json)

def firstRepeated? : List String → Option String
  | [] => none
  | name :: rest => if name ∈ rest then some name else firstRepeated? rest

def lengthened (label : String) (fields : List String) : String :=
  s!"{label} with {fields.length} {elements fields.length}"

namespace Record

def find? (r : Record) (field : String) : Option Json :=
  r.values.lookup field

def absent (r : Record) (field : String) : DecodeError :=
  if r.fromArray then .tooFewItems (r.fields.idxOf field) r.expected else .missingField field

def require {α : Type} (r : Record) (field : String) (decode : Json → Except DecodeError α) :
    Except DecodeError α :=
  match r.find? field with
  | some j => decode j
  | none => .error (r.absent field)

def getD {α : Type} (r : Record) (field : String) (default : α)
    (decode : Json → Except DecodeError α) : Except DecodeError α :=
  match r.find? field with
  | some j => decode j
  | none => .ok default

/-- When a field is met: the items of an array in order, the members of an object in order and then
what it lacks as it is declared. -/
def turn (r : Record) (field : String) : Nat :=
  match r.fromArray, r.values.findIdx? (·.1 == field) with
  | false, some position => position
  | false, none => r.values.length + r.fields.idxOf field
  | true, _ => r.fields.idxOf field

end Record

structure Fields (α : Type) where
  names : List String
  decode : Record → Except (Nat × DecodeError) α

namespace Fields

/-- Applies what some fields are decoded to, or gives the fault whose turn comes first. -/
def combine {α β : Type} :
    Except (Nat × DecodeError) (α → β) → Except (Nat × DecodeError) α →
      Except (Nat × DecodeError) β
  | .ok f, .ok a => .ok (f a)
  | .error e, .ok _ => .error e
  | .ok _, .error e => .error e
  | .error e, .error e' => .error (if e'.1 < e.1 then e' else e)

instance : Applicative Fields where
  pure a := { names := [], decode := fun _ => .ok a }
  -- both parts are decoded, as the fault of the second may be met first
  seq f x :=
    { names := f.names ++ (x ()).names
      decode := fun r => combine (f.decode r) ((x ()).decode r) }

end Fields

def field {α : Type} (name : String) (decode : Json → Except DecodeError α) : Fields α where
  names := [name]
  decode r := (r.require name decode).mapError (r.turn name, ·)

def fieldD {α : Type} (name : String) (default : α) (decode : Json → Except DecodeError α) :
    Fields α where
  names := [name]
  decode r := (r.getD name default decode).mapError (r.turn name, ·)

/-- Decodes a record from the declared fields. Members with other keys are ignored, and an array is
measured once its items are decoded. Errors call the document `label`, or `expected` where it is too
short, and `surplus` is the error for an array that is longer than the declaration. -/
def readRecord {α : Type} (label expected : String) (surplus : Nat → Nat → DecodeError)
    (fields : List String) (decode : Record → Except DecodeError α) : Json → Except DecodeError α
  | object members =>
    let known := members.filter fun m => m.1 ∈ fields
    match firstRepeated? (known.map (·.1)) with
    | some name => .error (.duplicateField name)
    | none => decode { expected, fields, fromArray := false, values := known }
  | array items => do
    let record ← decode { expected, fields, fromArray := true, values := fields.zip items }
    if fields.length < items.length then .error (surplus items.length fields.length)
    else return record
  | j => j.reject label

def asRecord {α : Type} (label : String) (fields : Fields α) : Json → Except DecodeError α :=
  readRecord label (lengthened label fields.names) (fun count _ => .tooManyItems count)
    fields.names fun r => (fields.decode r).mapError (·.2)

def asPart {α : Type} (label : String) (fields : Fields α) : Json → Except DecodeError α :=
  readRecord label (lengthened label fields.names) .surplusItems
    fields.names fun r => (fields.decode r).mapError (·.2)

/-! ### Variants -/

def variantNamed {α : Type} (variants : List (String × α)) (name : String) : Except DecodeError α :=
  match variants.lookup name with
  | some value => .ok value
  | none => .error (.unknownVariant name (variants.map (·.1)))

/-- Accepts what is left of a tagged value whose variant carries nothing: any object, and an array
without items. -/
def asNothing : Json → Except DecodeError Unit
  | array (item :: rest) => .error (.surplusItems (item :: rest).length 0)
  | _ => .ok ()

def asVariantName {α : Type} (variants : List (String × α)) : Json → Except DecodeError α
  | text name => variantNamed variants name
  | j => j.reject "variant identifier"

/-- As `asVariantName`, for a part of a tagged value, where a variant may also go by its number in
the order of declaration. -/
def asVariantNameInPart {α : Type} (variants : List (String × α)) : Json → Except DecodeError α
  | integer value =>
    if 0 ≤ value then
      match variants[value.toNat]? with
      | some variant => .ok variant.2
      | none =>
        .error (.wrongValue (integer value).form s!"variant index 0 <= i < {variants.length}")
    else (integer value).reject "variant identifier"
  | j => j.asVariantName variants

/-- Decodes a variant that carries nothing, from its name or from an object with its name as the
only key and with a value that is accepted as nothing. -/
def readVariant {α : Type} (isNothing : Json → Bool) (variants : List (String × α)) :
    Json → Except DecodeError α
  | text name => variantNamed variants name
  | object [(name, j)] => do
    let variant ← variantNamed variants name
    if isNothing j then return variant else j.reject "unit"
  | object _ => .error (.wrongValue "map" "map with a single key")
  | j => j.reject "string or map"

def asVariant {α : Type} : List (String × α) → Json → Except DecodeError α :=
  readVariant fun
    | null => true
    | _ => false

def asVariantInPart {α : Type} : List (String × α) → Json → Except DecodeError α :=
  readVariant fun
    | null | object [] => true
    | _ => false

/-- Decodes a tagged value that keeps its tag and its content in fields of their own. The tag is a
variant that carries nothing; in an array only its name may stand. -/
def asTagAndContent {α β : Type} (label tag content : String) (variants : List (String × α))
    (decode : α → Record → Except DecodeError β) : Json → Except DecodeError β :=
  readRecord label label (fun count _ => .tooManyItems count) [tag, content] fun r => do
    -- in an array the tag is a bare name
    let asTag := if r.fromArray then asVariantName variants else asVariant variants
    decode (← r.require tag asTag) r

/-- Splits a document whose variant is named by the member `tag` into the variant and the rest.
In an array the first item is the tag. -/
def asTagged {α : Type} (label tag : String) (asTag : Json → Except DecodeError α) :
    Json → Except DecodeError (α × Json)
  | object members =>
    match members.lookup tag with
    | some name => do return (← asTag name, object (members.filter (·.1 != tag)))
    | none => .error (.missingField tag)
  | array (name :: rest) => do return (← asTag name, array rest)
  | array [] => .error (.missingField tag)
  | j => j.reject label

end ObjectMapping.Json
