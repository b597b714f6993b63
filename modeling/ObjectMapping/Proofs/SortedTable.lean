import Mathlib.Data.List.Sort
import ObjectMapping.SortedTable

namespace ObjectMapping.SortedTable

variable {α : Type} {t t' : SortedTable α} {key : String} {value : α}

/-- What is found under a key is what the table has there. -/
theorem find?_eq_some_iff : t.find? key = some value ↔ (key, value) ∈ t.entries := by
  refine ⟨mem_of_lookup, fun h => ?_⟩
  obtain ⟨before, after, hentries⟩ := List.append_of_mem h
  refine List.lookup_eq_some_iff.mpr ⟨before, after, hentries, ?_⟩
  -- no entry in front has the key, as theirs are smaller
  have hascending := t.ascending
  rw [hentries, List.pairwise_append] at hascending
  intro e he
  have hlt : e.1 < key := hascending.2.2 e he (key, value) List.mem_cons_self
  refine bne_iff_ne.mpr fun heq => ?_
  exact String.lt_irrefl key (heq ▸ hlt)

/-- Tables with the same values are the same, as the keys of both are in order. -/
theorem ext_find? (h : ∀ key, t.find? key = t'.find? key) : t = t' := by
  have : Std.Irrefl fun e e' : String × α => e.1 < e'.1 := ⟨fun e => String.lt_irrefl e.1⟩
  have : Std.Antisymm fun e e' : String × α => e.1 < e'.1 :=
    ⟨fun e e' hlt hgt => absurd hgt (String.lt_asymm hlt)⟩
  apply SortedTable.ext
  apply t.ascending.eq_of_mem_iff t'.ascending
  rintro ⟨key, value⟩
  rw [← find?_eq_some_iff, ← find?_eq_some_iff, h key]

theorem mem_keys_iff : key ∈ t.keys ↔ (t.find? key).isSome := by
  rw [keys, List.mem_map, Option.isSome_iff_exists]
  constructor
  · rintro ⟨⟨_, value⟩, he, rfl⟩
    exact ⟨value, find?_eq_some_iff.mpr he⟩
  · rintro ⟨value, hvalue⟩
    exact ⟨(key, value), find?_eq_some_iff.mp hvalue, rfl⟩

theorem pairwise_keys (t : SortedTable α) : t.keys.Pairwise (· < ·) :=
  List.pairwise_map.mpr t.ascending

/-- No key of a table occurs twice. -/
theorem nodup_keys (t : SortedTable α) : t.keys.Nodup :=
  t.pairwise_keys.nodup

/-- The keys, listed in whatever order and then sorted. -/
theorem mergeSort_eq_keys {names : List String} (hnodup : names.Nodup)
    (hnames : ∀ name, name ∈ names ↔ (t.find? name).isSome) : names.mergeSort = t.keys := by
  have hperm : names.Perm t.keys :=
    (List.perm_ext_iff_of_nodup hnodup t.nodup_keys).mpr fun name =>
      (hnames name).trans mem_keys_iff.symm
  have hsorted : names.mergeSort.Pairwise (· ≤ ·) := List.pairwise_mergeSort' (· ≤ ·) names
  have hkeys : t.keys.Pairwise (· ≤ ·) :=
    t.pairwise_keys.imp fun hlt => String.not_lt.mp (String.lt_asymm hlt)
  exact ((List.mergeSort_perm names _).trans hperm).eq_of_pairwise' hsorted hkeys

end ObjectMapping.SortedTable
