import Mathlib.Data.List.Forall2
import Mathlib.Data.List.Nodup
import ObjectMapping.Json.Writer

namespace ObjectMapping.Json

/-- `Arranges j k`: the two documents are the same but for the order of members, at all levels. -/
inductive Arranges : Json → Json → Prop
  | same (j : Json) : Arranges j j
  | array {items items' : List Json} (h : List.Forall₂ Arranges items items') :
      Arranges (array items) (array items')
  | object {members ordered members' : List (String × Json)}
      (hkeys : ordered.map (·.1) = members.map (·.1))
      (hvalues : List.Forall₂ Arranges (members.map (·.2)) (ordered.map (·.2)))
      (hp : ordered.Perm members') : Arranges (object members) (object members')

variable {j k value : Json} {members members' : List (String × Json)} {items : List Json}
  {key : String}

/-! ### Keys -/

theorem lookup_eq_some_iff_mem (hn : (members.map (·.1)).Nodup) :
    members.lookup key = some value ↔ (key, value) ∈ members := by
  constructor
  · intro h
    obtain ⟨before, after, rfl, _⟩ := List.lookup_eq_some_iff.mp h
    exact List.mem_append_right before List.mem_cons_self
  · intro h
    obtain ⟨before, after, rfl⟩ := List.append_of_mem h
    refine List.lookup_eq_some_iff.mpr ⟨before, after, rfl, ?_⟩
    intro m hm
    rw [List.map_append, List.map_cons, List.nodup_append] at hn
    have hne := hn.2.2 m.1 (List.mem_map_of_mem hm) key List.mem_cons_self
    simpa using hne.symm

theorem lookup_eq_none_iff_notMem : members.lookup key = none ↔ key ∉ members.map (·.1) := by
  rw [List.lookup_eq_none_iff, List.mem_map]
  constructor
  · rintro h ⟨m, hm, rfl⟩
    simpa using h m hm
  · intro h m hm
    have hne : m.1 ≠ key := fun hkey => h ⟨m, hm, hkey⟩
    simpa using hne.symm

/-- What stands under a key does not depend on the order of members. -/
theorem lookup_perm (hp : members.Perm members') (hn : (members.map (·.1)).Nodup) (key : String) :
    members'.lookup key = members.lookup key := by
  have hn' : (members'.map (·.1)).Nodup := (hp.map _).nodup_iff.mp hn
  ext value
  rw [lookup_eq_some_iff_mem hn', lookup_eq_some_iff_mem hn, hp.mem_iff]

theorem lookup_rel {R : Json → Json → Prop} {ordered : List (String × Json)}
    (hkeys : ordered.map (·.1) = members.map (·.1))
    (hvalues : List.Forall₂ R (members.map (·.2)) (ordered.map (·.2))) (key : String) :
    Option.Rel R (members.lookup key) (ordered.lookup key) := by
  induction members generalizing ordered with
  | nil =>
    rw [List.map_nil, List.map_eq_nil_iff] at hkeys
    rw [hkeys]
    exact .none
  | cons first rest ih =>
    cases ordered with
    | nil => cases hkeys
    | cons first' rest' =>
      obtain ⟨name, value⟩ := first
      obtain ⟨name', value'⟩ := first'
      obtain ⟨hname, hnames⟩ := List.cons.inj hkeys
      obtain ⟨hvalue, hrest⟩ := List.forall₂_cons.mp hvalues
      simp only at hname
      subst hname
      rw [List.lookup_cons, List.lookup_cons]
      cases key == name' with
      | true => exact .some hvalue
      | false => exact ih hnames hrest

/-! ### Inversion -/

theorem exists_of_rel_some {R : Json → Json → Prop} {found : Option Json}
    (h : Option.Rel R (some j) found) : ∃ k, found = some k ∧ R j k := by
  cases h with
  | some hk => exact ⟨_, rfl, hk⟩

theorem eq_none_of_rel_none {R : Json → Json → Prop} {found : Option Json}
    (h : Option.Rel R none found) : found = none := by
  cases h
  rfl

theorem Arranges.array_inv (h : Arranges (.array items) k) :
    ∃ items', k = .array items' ∧ List.Forall₂ Arranges items items' := by
  cases h with
  | same => exact ⟨items, rfl, List.forall₂_same.mpr fun j _ => .same j⟩
  | array h => exact ⟨_, rfl, h⟩

/-- The values of an object are rearranged first, and then its members put in another order. -/
theorem Arranges.object_inv (h : Arranges (.object members) k) :
    ∃ ordered members' : List (String × Json), k = .object members' ∧
      ordered.map (·.1) = members.map (·.1) ∧
      List.Forall₂ Arranges (members.map (·.2)) (ordered.map (·.2)) ∧ ordered.Perm members' := by
  cases h with
  | same => exact ⟨members, members, rfl, rfl, List.forall₂_same.mpr fun j _ => .same j, .refl _⟩
  | object hkeys hvalues hp => exact ⟨_, _, rfl, hkeys, hvalues, hp⟩

/-- The same keys hold values that differ in the order of members only. -/
theorem Arranges.lookup_rel (h : Arranges (.object members) k) (hn : (members.map (·.1)).Nodup) :
    ∃ members', k = .object members' ∧ (members'.map (·.1)).Nodup ∧
      ∀ key, Option.Rel Arranges (members.lookup key) (members'.lookup key) := by
  obtain ⟨ordered, members', rfl, hkeys, hvalues, hp⟩ := h.object_inv
  have hordered : (ordered.map (·.1)).Nodup := hkeys ▸ hn
  refine ⟨members', rfl, (hp.map _).nodup_iff.mp hordered, ?_⟩
  intro key
  rw [lookup_perm hp hordered]
  exact Json.lookup_rel hkeys hvalues key

/-- Taking out the first member, wherever it stands now, leaves the others. -/
theorem Arranges.filter_key (hn : (((key, value) :: members).map (·.1)).Nodup)
    (h : Arranges (.object ((key, value) :: members)) (.object members')) :
    Arranges (.object members) (.object (members'.filter (·.1 != key))) := by
  obtain ⟨ordered, _, heq, hkeys, hvalues, hp⟩ := h.object_inv
  cases heq
  cases ordered with
  | nil => cases hkeys
  | cons first rest =>
    obtain ⟨hname, hnames⟩ := List.cons.inj hkeys
    obtain ⟨_, hrest⟩ := List.forall₂_cons.mp hvalues
    have hothers : ∀ m ∈ rest, (m.1 != key) = true := by
      intro m hm
      have hmem : m.1 ∈ members.map (·.1) := hnames ▸ List.mem_map_of_mem hm
      have hne : m.1 ≠ key := fun heq => (List.nodup_cons.mp hn).1 (heq ▸ hmem)
      simpa using hne
    refine .object hnames hrest ?_
    have hfiltered := hp.filter (·.1 != key)
    rwa [List.filter_cons_of_neg (by simpa using hname), List.filter_eq_self.mpr hothers]
      at hfiltered

/-! ### Sorted keys -/

theorem insertMember_perm (key : String) (value : Json) (members : List (String × Json)) :
    ((key, value) :: members).Perm (insertMember key value members) := by
  induction members with
  | nil => exact .refl _
  | cons first rest ih =>
    rw [insertMember]
    split
    · exact .refl _
    · exact (List.Perm.swap _ _ rest).trans (ih.cons first)

theorem sortMembers_perm (members : List (String × Json)) :
    (members.map fun m => (m.1, m.2.sortKeys)).Perm (sortMembers members) := by
  induction members with
  | nil => exact .refl _
  | cons first rest ih => exact (ih.cons _).trans (insertMember_perm _ _ _)

mutual

/-- Sorting the keys of a document rearranges it. -/
theorem arranges_sortKeys : (j : Json) → Arranges j j.sortKeys
  | .array items => .array (arranges_sortKeysOfItems items)
  | .object members => by
    refine .object ?_ ?_ (sortMembers_perm members)
    · rw [List.map_map]
      rfl
    · rw [List.map_map]
      exact arranges_sortValues members
  | .null | .bool _ | .integer _ | .fraction _ | .text _ => .same _

theorem arranges_sortKeysOfItems :
    (items : List Json) → List.Forall₂ Arranges items (sortKeysOfItems items)
  | [] => .nil
  | item :: rest => .cons (arranges_sortKeys item) (arranges_sortKeysOfItems rest)

theorem arranges_sortValues : (members : List (String × Json)) →
    List.Forall₂ Arranges (members.map (·.2)) (members.map fun m => m.2.sortKeys)
  | [] => .nil
  | (_, value) :: rest => .cons (arranges_sortKeys value) (arranges_sortValues rest)

end

end ObjectMapping.Json
