namespace ObjectMapping

@[ext]
structure SortedTable (α : Type) where
  entries : List (String × α) := []
  ascending : entries.Pairwise (·.1 < ·.1) := by exact List.Pairwise.nil

namespace SortedTable

variable {α : Type}

/-- Puts an entry in its place in front of the first greater key, and in place of an entry with
the same key. -/
def insertEntry (key : String) (value : α) : List (String × α) → List (String × α)
  | [] => [(key, value)]
  | (k, v) :: rest =>
    if key < k then (key, value) :: (k, v) :: rest
    else if key = k then (key, value) :: rest
    else (k, v) :: insertEntry key value rest

/-- An insertion brings in no entry but its own. -/
theorem eq_or_mem_of_mem_insertEntry {key : String} {value : α} {e : String × α}
    {entries : List (String × α)} (h : e ∈ insertEntry key value entries) :
    e = (key, value) ∨ e ∈ entries := by
  induction entries with
  | nil => simpa [insertEntry] using h
  | cons first rest ih =>
    rw [insertEntry] at h
    split at h
    · simpa using h
    split at h
    · simp only [List.mem_cons] at h ⊢
      exact h.imp_right .inr
    · rcases List.mem_cons.1 h with h | h
      · exact .inr (h ▸ List.mem_cons_self)
      · exact (ih h).imp_right (List.mem_cons_of_mem first)

/-- An insertion keeps the order of the keys. -/
theorem ascending_insertEntry (key : String) (value : α) {entries : List (String × α)}
    (h : entries.Pairwise (·.1 < ·.1)) : (insertEntry key value entries).Pairwise (·.1 < ·.1) := by
  induction entries with
  | nil => exact List.pairwise_singleton _ _
  | cons first rest ih =>
    have ⟨hfirst, hrest⟩ := List.pairwise_cons.1 h
    rw [insertEntry]
    split
    · rename_i hlt
      refine List.pairwise_cons.2 ⟨fun e he => ?_, h⟩
      rcases List.mem_cons.1 he with he | he
      · exact he ▸ hlt
      · exact String.lt_trans hlt (hfirst e he)
    split
    · rename_i _ heq
      exact List.pairwise_cons.2 ⟨fun e he => heq ▸ hfirst e he, hrest⟩
    · rename_i hlt hne
      refine List.pairwise_cons.2 ⟨fun e he => ?_, ih hrest⟩
      rcases eq_or_mem_of_mem_insertEntry he with he | he
      · have hle : first.1 ≤ key := String.not_lt.1 hlt
        have hnle : ¬ key ≤ first.1 := fun h' => hne (String.le_antisymm h' hle)
        exact he ▸ String.not_le.1 hnle
      · exact hfirst e he

theorem lookup_cons_eq_ite (k key : String) (value : α) (entries : List (String × α)) :
    ((key, value) :: entries).lookup k = if k = key then some value else entries.lookup k := by
  rw [List.lookup_cons]
  by_cases hk : k = key
  · rw [if_pos hk, beq_iff_eq.mpr hk]
  · rw [if_neg hk, beq_eq_false_iff_ne.mpr hk]

theorem mem_of_lookup {k : String} {value : α} {entries : List (String × α)}
    (h : entries.lookup k = some value) : (k, value) ∈ entries := by
  obtain ⟨before, after, rfl, -⟩ := List.lookup_eq_some_iff.mp h
  exact List.mem_append_right before List.mem_cons_self

theorem lookup_insertEntry (key k : String) (value : α) (entries : List (String × α)) :
    (insertEntry key value entries).lookup k =
      if k = key then some value else entries.lookup k := by
  induction entries with
  | nil => exact lookup_cons_eq_ite k key value []
  | cons first rest ih =>
    obtain ⟨k', v⟩ := first
    rw [insertEntry]
    -- the new entry goes in front, in place of the first one, or further back
    split
    · exact lookup_cons_eq_ite k key value _
    split
    · rename_i _ heq
      subst heq
      rw [lookup_cons_eq_ite, lookup_cons_eq_ite]
      by_cases hk : k = key
      · rw [if_pos hk, if_pos hk]
      · rw [if_neg hk, if_neg hk, if_neg hk]
    · rename_i _ hne
      rw [lookup_cons_eq_ite, lookup_cons_eq_ite, ih]
      by_cases hk : k = key
      · have hk' : k ≠ k' := fun h => hne (hk.symm.trans h)
        rw [if_pos hk, if_pos hk, if_neg hk']
      · rw [if_neg hk, if_neg hk]

def insert (t : SortedTable α) (key : String) (value : α) : SortedTable α :=
  ⟨insertEntry key value t.entries, ascending_insertEntry key value t.ascending⟩

def find? (t : SortedTable α) (key : String) : Option α :=
  t.entries.lookup key

/-- An inserted value is found under its key, and every other key has what it had. -/
theorem find?_insert (t : SortedTable α) (key k : String) (value : α) :
    (t.insert key value).find? k = if k = key then some value else t.find? k :=
  lookup_insertEntry key k value t.entries

def contains (t : SortedTable α) (key : String) : Bool :=
  (t.find? key).isSome

def keys (t : SortedTable α) : List String :=
  t.entries.map (·.1)

def size (t : SortedTable α) : Nat :=
  t.entries.length

/-- The table of a list of entries, of which the last with a key counts. -/
def ofList (entries : List (String × α)) : SortedTable α :=
  entries.foldl (fun t e => t.insert e.1 e.2) {}

end SortedTable

end ObjectMapping
