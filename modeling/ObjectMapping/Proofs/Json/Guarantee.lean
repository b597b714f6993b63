import ObjectMapping.Json.Decode
import ObjectMapping.Proofs.Success
import ObjectMapping.Proofs.TypeRef.Printing

namespace ObjectMapping.Json

variable {α β : Type} {decode : Json → Except DecodeError α} {P : α → Prop} {Q : β → Prop}

def Guarantees (decode : Json → Except DecodeError α) (P : α → Prop) : Prop :=
  ∀ j a, decode j = .ok a → P a

/-- A type that is decoded has a written form. -/
theorem guarantees_type : Guarantees asType TypeRef.Representable := by
  intro j t h
  obtain ⟨s, _, hread⟩ := bind_eq_ok_iff.mp h
  exact (TypeRef.read_eq_ok_iff.mp (mapError_eq_ok_iff.mp hread)).2

/-- What decoding ensures of an item it ensures of all items of a list. -/
theorem guarantees_list (h : Guarantees decode P) :
    Guarantees (asList decode) fun as => ∀ a ∈ as, P a := by
  intro j as hj a ha
  cases j with
  | array items =>
    obtain ⟨item, _, hitem⟩ := exists_of_mem_mapM hj ha
    exact h item a hitem
  | _ => cases hj

/-! ### Records -/

theorem exists_record {label expected : String} {surplus : Nat → Nat → DecodeError}
    {fields : List String} {read : Record → Except DecodeError α} {j : Json} {a : α}
    (h : readRecord label expected surplus fields read j = .ok a) : ∃ r, read r = .ok a := by
  cases j with
  | object members =>
    rw [readRecord] at h
    split at h
    · cases h
    · exact ⟨_, h⟩
  | array items =>
    rw [readRecord] at h
    obtain ⟨found, hread, hlength⟩ := bind_eq_ok_iff.mp h
    split at hlength
    · cases hlength
    · cases hlength
      exact ⟨_, hread⟩
  | _ => cases h

namespace Fields

variable {f : Fields α} {name : String}

def Guarantees (f : Fields α) (P : α → Prop) : Prop :=
  ∀ r a, f.decode r = .ok a → P a

theorem Guarantees.map {g : α → β} (h : f.Guarantees P) (hg : ∀ a, P a → Q (g a)) :
    (g <$> f).Guarantees Q := by
  intro r b hb
  change combine (.ok g) (f.decode r) = .ok b at hb
  cases ha : f.decode r with
  | error e =>
    rw [ha] at hb
    cases hb
  | ok a =>
    rw [ha] at hb
    cases hb
    exact hg a (h r a ha)

theorem Guarantees.seq {f : Fields (α → β)} {x : Fields α}
    (hf : f.Guarantees fun g => ∀ a, P a → Q (g a)) (hx : x.Guarantees P) :
    (f <*> x).Guarantees Q := by
  intro r b hb
  change combine (f.decode r) (x.decode r) = .ok b at hb
  cases hg : f.decode r with
  | error e =>
    rw [hg] at hb
    cases ha : x.decode r <;> rw [ha] at hb <;> cases hb
  | ok g =>
    cases ha : x.decode r with
    | error e =>
      rw [hg, ha] at hb
      cases hb
    | ok a =>
      rw [hg, ha] at hb
      cases hb
      exact hf r g hg a (hx r a ha)

theorem guarantees_field (h : Json.Guarantees decode P) : (field name decode).Guarantees P := by
  intro r a ha
  have hrequire : r.require name decode = .ok a := mapError_eq_ok_iff.mp ha
  rw [Record.require] at hrequire
  split at hrequire
  · exact h _ a hrequire
  · cases hrequire

theorem guarantees_fieldD {default : α} (hdefault : P default) (h : Json.Guarantees decode P) :
    (fieldD name default decode).Guarantees P := by
  intro r a ha
  have hget : r.getD name default decode = .ok a := mapError_eq_ok_iff.mp ha
  rw [Record.getD] at hget
  split at hget
  · exact h _ a hget
  · cases hget
    exact hdefault

theorem Guarantees.true (f : Fields α) : f.Guarantees fun _ => True :=
  fun _ _ _ => trivial

end Fields

theorem guarantees_record {label : String} {f : Fields α} (h : f.Guarantees P) :
    Guarantees (asRecord label f) P := by
  intro j a ha
  obtain ⟨r, hr⟩ := exists_record ha
  exact h r a (mapError_eq_ok_iff.mp hr)

end ObjectMapping.Json
