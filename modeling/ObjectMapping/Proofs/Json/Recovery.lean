import ObjectMapping.Json.Decode
import ObjectMapping.Proofs.Json.Arrangement
import ObjectMapping.Proofs.Success
import ObjectMapping.Proofs.TypeRef.Printing

namespace ObjectMapping.Json

variable {α β : Type} {a : α} {decode : Json → Except DecodeError α} {j k : Json}
  {members : List (String × Json)} {name label tag : String}

/-- The document, and any other that differs from it in the order of members only, is decoded to
`a`. -/
def Recovers (decode : Json → Except DecodeError α) (j : Json) (a : α) : Prop :=
  ∀ k, Arranges j k → decode k = .ok a

theorem Recovers.eq_ok (h : Recovers decode j a) : decode j = .ok a :=
  h j (.same j)

/-- Sorted keys are one of the orders from which a value is recovered. -/
theorem Recovers.sorted (h : Recovers decode j a) : decode j.sortKeys = .ok a :=
  h _ (arranges_sortKeys j)

/-! ### Single values -/

theorem recovers_text (s : String) : Recovers asText (.text s) s := by
  intro k hk
  cases hk
  rfl

theorem recovers_bool (b : Bool) : Recovers asBool (.bool b) b := by
  intro k hk
  cases hk
  rfl

theorem recovers_size (n : Nat) : Recovers asSize (.integer n) n := by
  intro k hk
  cases hk
  rfl

theorem recovers_word (n : UInt32) : Recovers asWord (.integer n.toNat) n := by
  intro k hk
  cases hk
  have hlt : n.toNat < UInt32.size := n.toNat_lt
  change (if n.toNat < UInt32.size then Except.ok n.toNat.toUInt32 else _) = Except.ok n
  rw [if_pos hlt]
  exact congrArg Except.ok UInt32.ofNat_toNat

/-- A type is recovered from its written form, if it has one of its own. -/
theorem recovers_type {t : TypeRef} (h : t.Representable) : Recovers asType (.text t.text) t := by
  intro k hk
  cases hk
  exact mapError_eq_ok_iff.mpr (TypeRef.read_text_iff.mpr h)

theorem recovers_some (hj : j ≠ .null) (h : Recovers decode j a) :
    Recovers (asOption decode) j (some a) := by
  intro k hk
  have hsome : k ≠ .null := by
    rintro rfl
    cases hk
    exact hj rfl
  have hdecode : asOption decode k = some <$> decode k := by
    cases k <;> first | rfl | exact absurd rfl hsome
  rw [hdecode, h k hk]
  rfl

/-- Null stands for nothing only, as no value is written as null. -/
theorem recovers_ofOption {encode : α → Json} (hencode : ∀ a, encode a ≠ .null)
    (h : ∀ a, Recovers decode (encode a) a) (value : Option α) :
    Recovers (asOption decode) (ofOption encode value) value := by
  cases value with
  | none =>
    intro k hk
    cases hk
    rfl
  | some a => exact recovers_some (hencode a) (h a)

/-! ### Lists -/

theorem recovers_items {items : List Json} {as : List α}
    (h : List.Forall₂ (fun j a => Recovers decode j a) items as) :
    Recovers (asList decode) (.array items) as := by
  intro k hk
  obtain ⟨items', rfl, hitems⟩ := hk.array_inv
  clear hk
  apply mapM_eq_ok_iff.mpr
  induction h generalizing items' with
  | nil =>
    cases hitems
    exact .nil
  | cons hfirst _ ih =>
    cases hitems with
    | cons hj hrest => exact .cons (hfirst _ hj) (ih _ hrest)

/-- A list is recovered item by item. -/
theorem recovers_list {encode : α → Json} {as : List α}
    (h : ∀ a ∈ as, Recovers decode (encode a) a) :
    Recovers (asList decode) (.array (as.map encode)) as :=
  recovers_items (List.forall₂_map_left_iff.mpr (List.forall₂_same.mpr h))

/-! ### Records -/

/-- No repeated name is found exactly if there is none. -/
theorem firstRepeated?_eq_none_iff {names : List String} :
    firstRepeated? names = none ↔ names.Nodup := by
  induction names with
  | nil => simp [firstRepeated?]
  | cons name rest ih =>
    rw [firstRepeated?, List.nodup_cons, ← ih]
    split <;> simp_all

theorem lookup_filter (keep : String → Bool) (members : List (String × Json))
    (hname : keep name = true) :
    (members.filter fun m => keep m.1).lookup name = members.lookup name := by
  induction members with
  | nil => rfl
  | cons first rest ih =>
    obtain ⟨key, value⟩ := first
    cases hkey : keep key with
    | true =>
      rw [List.filter_cons_of_pos (p := (fun m : String × Json => keep m.1)) hkey,
        List.lookup_cons, List.lookup_cons, ih]
    | false =>
      have hne : (name == key) = false := by
        apply beq_eq_false_iff_ne.mpr
        rintro rfl
        rw [hname] at hkey
        cases hkey
      rw [List.filter_cons_of_neg (p := (fun m : String × Json => keep m.1))
          (ne_true_of_eq_false hkey),
        List.lookup_cons, hne, ih]

namespace Record

variable {r : Record} {default : α}

theorem require_eq_ok (hrel : Option.Rel Arranges (some j) (r.find? name))
    (h : Recovers decode j a) : r.require name decode = .ok a := by
  obtain ⟨k, hvalue, hk⟩ := exists_of_rel_some hrel
  rw [require, hvalue]
  exact h k hk

theorem getD_eq_ok (hrel : Option.Rel Arranges (some j) (r.find? name))
    (h : Recovers decode j a) : r.getD name default decode = .ok a := by
  obtain ⟨k, hvalue, hk⟩ := exists_of_rel_some hrel
  rw [getD, hvalue]
  exact h k hk

theorem getD_eq_default (hrel : Option.Rel Arranges none (r.find? name)) :
    r.getD name default decode = .ok default := by
  rw [getD, eq_none_of_rel_none hrel]

end Record

namespace Fields

variable {f : Fields α}

/-- The fields are decoded to `a` from any record that holds what the members hold. -/
def Recovers (f : Fields α) (members : List (String × Json)) (a : α) : Prop :=
  ∀ r : Record,
    (∀ name ∈ f.names, Option.Rel Arranges (members.lookup name) (r.find? name)) →
      f.decode r = .ok a

theorem Recovers.map {g : α → β} (hf : f.Recovers members a) :
    (g <$> f).Recovers members (g a) := by
  intro r hr
  change combine (.ok g) (f.decode r) = _
  rw [hf r hr]
  rfl

theorem Recovers.seq {f : Fields (α → β)} {g : α → β} {x : Fields α}
    (hf : f.Recovers members g) (hx : x.Recovers members a) :
    (f <*> x).Recovers members (g a) := by
  intro r hr
  obtain ⟨hrf, hrx⟩ := List.forall_mem_append.mp hr
  change combine (f.decode r) (x.decode r) = _
  rw [hf r hrf, hx r hrx]
  rfl

/-- A field is recovered from its member. -/
theorem recovers_field (hname : members.lookup name = some j) (h : Json.Recovers decode j a) :
    (field name decode).Recovers members a := by
  intro r hr
  have hrel := hr name List.mem_cons_self
  rw [hname] at hrel
  exact mapError_eq_ok_iff.mpr (Record.require_eq_ok hrel h)

theorem recovers_fieldD {default : α} (hname : members.lookup name = some j)
    (h : Json.Recovers decode j a) : (fieldD name default decode).Recovers members a := by
  intro r hr
  have hrel := hr name List.mem_cons_self
  rw [hname] at hrel
  exact mapError_eq_ok_iff.mpr (Record.getD_eq_ok hrel h)

theorem recovers_default (hname : members.lookup name = none) :
    (fieldD name a decode).Recovers members a := by
  intro r hr
  have hrel := hr name List.mem_cons_self
  rw [hname] at hrel
  exact mapError_eq_ok_iff.mpr (Record.getD_eq_default hrel)

/-- A value that may be absent is recovered whether its member is there or not. -/
theorem recovers_optional {value : Option α} {encode : α → Json}
    (hname : members.lookup name = value.map encode) (hencode : ∀ a, encode a ≠ .null)
    (h : ∀ a, Json.Recovers decode (encode a) a) :
    (fieldD name none (asOption decode)).Recovers members value := by
  cases value with
  | none => exact recovers_default hname
  | some a => exact recovers_fieldD hname (recovers_some (hencode a) (h a))

end Fields

/-- A record is recovered if it is decoded from every record that holds what the members hold. -/
theorem recovers_readRecord {expected : String} {surplus : Nat → Nat → DecodeError}
    {fields : List String} {decode : Record → Except DecodeError α}
    (hn : (members.map (·.1)).Nodup)
    (h : ∀ r : Record, r.fromArray = false →
      (∀ name ∈ fields, Option.Rel Arranges (members.lookup name) (r.find? name)) →
        decode r = .ok a) :
    Recovers (readRecord label expected surplus fields decode) (.object members) a := by
  intro k hk
  obtain ⟨members', rfl, hn', hrel⟩ := hk.lookup_rel hn
  -- members that are no fields are dropped, and the others still repeat no key
  have hknown : ((members'.filter fun m => m.1 ∈ fields).map (·.1)).Nodup :=
    (List.filter_sublist.map _).nodup hn'
  rw [readRecord]
  simp only [firstRepeated?_eq_none_iff.mpr hknown]
  apply h _ rfl
  intro name hname
  rw [Record.find?, lookup_filter (fun key => decide (key ∈ fields)) members'
    (decide_eq_true hname)]
  exact hrel name

/-- A record is recovered if its fields are, and no key stands in its way twice. -/
theorem Fields.Recovers.readRecord {expected : String} {surplus : Nat → Nat → DecodeError}
    {f : Fields α} (hn : (members.map (·.1)).Nodup) (hf : f.Recovers members a) :
    Json.Recovers
      (readRecord label expected surplus f.names fun r => (f.decode r).mapError (·.2))
      (.object members) a :=
  recovers_readRecord hn fun r _ hr => mapError_eq_ok_iff.mpr (hf r hr)

theorem recovers_record {f : Fields α} (hn : (members.map (·.1)).Nodup)
    (hf : f.Recovers members a) : Recovers (asRecord label f) (.object members) a :=
  hf.readRecord hn

theorem recovers_part {f : Fields α} (hn : (members.map (·.1)).Nodup)
    (hf : f.Recovers members a) : Recovers (asPart label f) (.object members) a :=
  hf.readRecord hn

/-! ### Variants -/

theorem recovers_variant {isNothing : Json → Bool} {variants : List (String × α)}
    (h : variants.lookup name = some a) :
    Recovers (readVariant isNothing variants) (.text name) a := by
  intro k hk
  cases hk
  change variantNamed variants name = .ok a
  rw [variantNamed, h]

/-- A value with its tag in a field of its own is recovered from its tag and what is decoded by
it. -/
theorem recovers_tagAndContent {content : String} {variants : List (String × β)} {variant : β}
    {decodeContent : β → Record → Except DecodeError α} (hn : (members.map (·.1)).Nodup)
    (htag : members.lookup tag = some (.text name)) (hvariant : variants.lookup name = some variant)
    (h : ∀ r : Record, r.fromArray = false →
      Option.Rel Arranges (members.lookup content) (r.find? content) →
        decodeContent variant r = .ok a) :
    Recovers (asTagAndContent label tag content variants decodeContent) (.object members) a := by
  apply recovers_readRecord hn
  intro r hr hrel
  have hname := hrel tag List.mem_cons_self
  have hcontent := hrel content (List.mem_cons_of_mem _ List.mem_cons_self)
  rw [htag] at hname
  have hrequire : r.require tag (asVariant variants) = .ok variant :=
    Record.require_eq_ok hname (recovers_variant hvariant)
  rw [hr]
  exact bind_eq_ok_iff.mpr ⟨variant, hrequire, h r hr hcontent⟩

/-- A tagged value is recovered from what is left without its tag. -/
theorem recovers_tagged {variants : List (String × (Json → Except DecodeError α))}
    {asTag : Json → Except DecodeError (Json → Except DecodeError α)}
    (hn : (((tag, Json.text name) :: members).map (·.1)).Nodup)
    (htag : asTag (.text name) = variantNamed variants name)
    (hvariant : variants.lookup name = some decode) (h : Recovers decode (.object members) a) :
    Recovers (fun j => do
        let (decode, rest) ← j.asTagged label tag asTag
        decode rest)
      (.object ((tag, .text name) :: members)) a := by
  intro k hk
  obtain ⟨members', rfl, _, hrel⟩ := hk.lookup_rel hn
  have hlookup : members'.lookup tag = some (.text name) := by
    have hfirst := hrel tag
    rw [List.lookup_cons, beq_self_eq_true] at hfirst
    obtain ⟨value, hvalue, htext⟩ := exists_of_rel_some hfirst
    cases htext
    exact hvalue
  -- wherever the tag stands, what is left arranges the other members
  have hrest := h _ (Arranges.filter_key hn hk)
  simp only [asTagged, hlookup, htag, variantNamed, hvariant]
  exact hrest

theorem recovers_nothing : Recovers (fun j => do
    j.asNothing
    return a) (.object []) a := by
  intro k hk
  obtain ⟨ordered, members', rfl, _⟩ := hk.object_inv
  rfl

end ObjectMapping.Json
