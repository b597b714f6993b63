import ObjectMapping.Proofs.Json.Recovery

/-!
Abridged documents, in which members of records are left out where they say no more than their
absence does. A value survives this if it is recovered from all of its abridged documents.
-/

namespace ObjectMapping.Json

structure Abridgement where
  Abridges : Json → Json → Prop
  same : ∀ j, Abridges j j

structure RecordAbridgement where
  -- the members that may be left out, with the values at which they may
  defaults : List (String × Json) := []
  -- how the values under some keys may be abridged in turn
  parts : List (String × Abridgement) := []

def Abridgement.whole : Abridgement :=
  ⟨Eq, fun _ => rfl⟩

def RecordAbridgement.part (r : RecordAbridgement) (key : String) : Abridgement :=
  (r.parts.lookup key).getD .whole

/-- The second list keeps members of the first in their order, with values that may be abridged,
and leaves out others at their defaults. -/
inductive AbridgesMembers (r : RecordAbridgement) :
    List (String × Json) → List (String × Json) → Prop
  | nil : AbridgesMembers r [] []
  | keep {key : String} {value value' : Json} {members members' : List (String × Json)}
      (hvalue : (r.part key).Abridges value value') (hrest : AbridgesMembers r members members') :
      AbridgesMembers r ((key, value) :: members) ((key, value') :: members')
  | leaveOut {key : String} {value : Json} {members members' : List (String × Json)}
      (hdefault : (key, value) ∈ r.defaults) (hrest : AbridgesMembers r members members') :
      AbridgesMembers r ((key, value) :: members) members'

inductive AbridgesRecord (r : RecordAbridgement) : Json → Json → Prop
  | same (j : Json) : AbridgesRecord r j j
  | object {members members' : List (String × Json)} (h : AbridgesMembers r members members') :
      AbridgesRecord r (object members) (object members')

inductive AbridgesList (item : Json → Json → Prop) : Json → Json → Prop
  | same (j : Json) : AbridgesList item j j
  | array {items items' : List Json} (h : List.Forall₂ item items items') :
      AbridgesList item (array items) (array items')

namespace Abridgement

def record (r : RecordAbridgement) : Abridgement :=
  ⟨AbridgesRecord r, .same⟩

def list (item : Abridgement) : Abridgement :=
  ⟨AbridgesList item.Abridges, .same⟩

end Abridgement

variable {α β : Type} {a : α} {decode : Json → Except DecodeError α} {j : Json} {name key : String}
  {members members' : List (String × Json)} {r : RecordAbridgement} {d : Abridgement}

/-! ### Members -/

namespace AbridgesMembers

theorem refl (members : List (String × Json)) : AbridgesMembers r members members := by
  induction members with
  | nil => exact .nil
  | cons first rest ih => exact .keep (Abridgement.same _ _) ih

/-- Abridging leaves the keys in their order and brings in no others. -/
theorem keys_sublist (h : AbridgesMembers r members members') :
    (members'.map (·.1)).Sublist (members.map (·.1)) := by
  induction h with
  | nil => exact .slnil
  | keep _ _ ih => exact .cons_cons _ ih
  | leaveOut _ _ ih => exact .cons _ ih

theorem lookup_of_eq_none (h : AbridgesMembers r members members')
    (hnone : members.lookup key = none) : members'.lookup key = none := by
  rw [lookup_eq_none_iff_notMem] at hnone ⊢
  exact fun hmem => hnone (h.keys_sublist.subset hmem)

/-- The value under a key is kept, perhaps abridged, or it is left out at its default. -/
theorem lookup_of_eq_some (h : AbridgesMembers r members members')
    (hn : (members.map (·.1)).Nodup) (hvalue : members.lookup key = some j) :
    (∃ k, members'.lookup key = some k ∧ (r.part key).Abridges j k) ∨
      members'.lookup key = none ∧ (key, j) ∈ r.defaults := by
  induction h with
  | nil => cases hvalue
  | @keep name value value' members members' habridges hrest ih =>
    rw [List.lookup_cons] at hvalue ⊢
    cases heq : key == name with
    | true =>
      rw [heq] at hvalue
      cases hvalue
      cases beq_iff_eq.mp heq
      exact .inl ⟨value', rfl, habridges⟩
    | false =>
      rw [heq] at hvalue
      exact ih (List.nodup_cons.mp hn).2 hvalue
  | @leaveOut name value members members' hdefault hrest ih =>
    obtain ⟨hname, hn⟩ := List.nodup_cons.mp hn
    rw [List.lookup_cons] at hvalue
    cases heq : key == name with
    | true =>
      rw [heq] at hvalue
      cases hvalue
      cases beq_iff_eq.mp heq
      -- the key stands nowhere else
      have hnone : members.lookup key = none := lookup_eq_none_iff_notMem.mpr hname
      exact .inr ⟨hrest.lookup_of_eq_none hnone, hdefault⟩
    | false =>
      rw [heq] at hvalue
      exact ih hn hvalue

end AbridgesMembers

/-! ### Survival -/

/-- The value is recovered from every abridged document, whatever the order of members. -/
def Survives (d : Abridgement) (decode : Json → Except DecodeError α) (j : Json) (a : α) : Prop :=
  ∀ k, d.Abridges j k → Recovers decode k a

/-- A document as it stands is one of its own abridged documents. -/
theorem Survives.recovers (h : Survives d decode j a) : Recovers decode j a :=
  h j (d.same j)

theorem survives_whole (h : Recovers decode j a) : Survives .whole decode j a := by
  rintro k rfl
  exact h

theorem Survives.map {g : α → β} (h : Survives d decode j a) :
    Survives d (fun j => g <$> decode j) j (g a) := by
  intro k hk k' hk'
  exact map_eq_ok_iff.mpr ⟨a, h k hk k' hk', rfl⟩

/-- A list survives if each of its items does. -/
theorem survives_list {item : Abridgement} {encode : α → Json} {as : List α}
    (h : ∀ a ∈ as, Survives item decode (encode a) a) :
    Survives (.list item) (asList decode) (.array (as.map encode)) as := by
  intro k hk
  cases hk with
  | same => exact recovers_list fun a ha => (h a ha).recovers
  | array hitems =>
    apply recovers_items
    rw [List.forall₂_map_left_iff] at hitems
    induction hitems with
    | nil => exact .nil
    | cons hitem _ ih =>
      obtain ⟨ha, has⟩ := List.forall_mem_cons.mp h
      exact .cons (ha _ hitem) (ih has)

def Fields.Survives (f : Fields α) (r : RecordAbridgement) (members : List (String × Json))
    (a : α) : Prop :=
  ∀ members', (members.map (·.1)).Nodup → AbridgesMembers r members members' →
    f.Recovers members' a

namespace Fields

theorem Survives.map {f : Fields α} {g : α → β} (hf : f.Survives r members a) :
    (g <$> f).Survives r members (g a) :=
  fun members' hn h => (hf members' hn h).map

theorem Survives.seq {f : Fields (α → β)} {g : α → β} {x : Fields α}
    (hf : f.Survives r members g) (hx : x.Survives r members a) :
    (f <*> x).Survives r members (g a) :=
  fun members' hn h => (hf members' hn h).seq (hx members' hn h)

/-- A field that must be present survives if it is never left out. -/
theorem survives_field (hname : members.lookup name = some j) (hkept : (name, j) ∉ r.defaults)
    (h : Json.Survives (r.part name) decode j a) : (field name decode).Survives r members a := by
  intro members' hn habridges
  rcases habridges.lookup_of_eq_some hn hname with ⟨k, hvalue, hk⟩ | ⟨_, hdefault⟩
  · exact recovers_field hvalue (h k hk)
  · exact absurd hdefault hkept

/-- A field with a default survives if it is left out at its default only. -/
theorem survives_fieldD {default : α} (hname : members.lookup name = some j)
    (hdefault : (name, j) ∈ r.defaults → a = default)
    (h : Json.Survives (r.part name) decode j a) :
    (fieldD name default decode).Survives r members a := by
  intro members' hn habridges
  rcases habridges.lookup_of_eq_some hn hname with ⟨k, hvalue, hk⟩ | ⟨habsent, hleft⟩
  · exact recovers_fieldD hvalue (h k hk)
  · rw [← hdefault hleft]
    exact recovers_default habsent

/-- A field without a member has its default in every abridged document. -/
theorem survives_default (hname : members.lookup name = none) :
    (fieldD name a decode).Survives r members a :=
  fun _ _ habridges => recovers_default (habridges.lookup_of_eq_none hname)

end Fields

/-- A record survives if its fields do. -/
theorem survives_record {label : String} {f : Fields α} (hn : (members.map (·.1)).Nodup)
    (hf : f.Survives r members a) :
    Survives (.record r) (asRecord label f) (.object members) a := by
  intro k hk
  cases hk with
  | same => exact recovers_record hn (hf members hn (.refl members))
  | object h => exact recovers_record (h.keys_sublist.nodup hn) (hf _ hn h)

end ObjectMapping.Json
