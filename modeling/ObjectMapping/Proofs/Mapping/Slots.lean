import Mathlib.Data.List.Basic
import ObjectMapping.Descriptor.Slot

namespace ObjectMapping

section Distinct

variable {α κ : Type} [DecidableEq κ] (key : α → κ)

theorem nodup_map_distinctBy (l : List α) : ((distinctBy key l).map key).Nodup := by
  induction l with
  | nil => exact List.nodup_nil
  | cons a rest ih =>
    refine List.nodup_cons.mpr ⟨?_, ?_⟩
    · intro hmem
      obtain ⟨b, hb, hkey⟩ := List.mem_map.mp hmem
      exact of_decide_eq_true (List.mem_filter.mp hb).2 hkey
    · exact (List.filter_sublist.map key).nodup ih

/-- No key is lost with the repeated items. -/
theorem mem_map_distinctBy {k : κ} {l : List α} :
    k ∈ (distinctBy key l).map key ↔ k ∈ l.map key := by
  induction l with
  | nil => rfl
  | cons a rest ih =>
    rw [distinctBy, List.map_cons, List.map_cons, List.mem_cons, List.mem_cons, ← ih]
    by_cases hk : k = key a
    · simp [hk]
    · simp only [hk, false_or, List.mem_map, List.mem_filter, decide_eq_true_eq]
      constructor
      · rintro ⟨b, ⟨hb, _⟩, rfl⟩
        exact ⟨b, hb, rfl⟩
      · rintro ⟨b, hb, rfl⟩
        exact ⟨b, ⟨hb, hk⟩, rfl⟩

theorem distinctBy_sublist (l : List α) : (distinctBy key l).Sublist l := by
  induction l with
  | nil => exact .slnil
  | cons a rest ih => exact (List.filter_sublist.trans ih).cons_cons a

theorem map_distinctBy (l : List α) : (distinctBy key l).map key = distinctBy id (l.map key) := by
  induction l with
  | nil => rfl
  | cons a rest ih =>
    rw [distinctBy, List.map_cons, List.map_cons, distinctBy, ← ih, List.filter_map]
    rfl

theorem distinctBy_filter (P : κ → Bool) (l : List κ) :
    distinctBy id (l.filter P) = (distinctBy id l).filter P := by
  induction l with
  | nil => rfl
  | cons a rest ih =>
    by_cases ha : P a = true
    · rw [List.filter_cons_of_pos ha, distinctBy, distinctBy, List.filter_cons_of_pos ha, ih,
        List.filter_comm]
    · -- what is left differs from the first anyway
      have hne : ∀ b ∈ (distinctBy id rest).filter P, decide (id b ≠ id a) = true := by
        intro b hb
        apply decide_eq_true
        rintro rfl
        exact ha (List.mem_filter.mp hb).2
      rw [List.filter_cons_of_neg ha, distinctBy, List.filter_cons_of_neg ha, ih, List.filter_comm,
        List.filter_eq_self.mpr hne]

/-- The keys stand in the order in which they occur first. -/
theorem pairwise_idxOf_distinctBy [BEq κ] [LawfulBEq κ] (l : List κ) :
    (distinctBy id l).Pairwise fun a b => l.idxOf a < l.idxOf b := by
  induction l with
  | nil => exact .nil
  | cons a rest ih =>
    have hafter {b : κ} (hb : b ∈ (distinctBy id rest).filter fun b => id b ≠ id a) :
        (a :: rest).idxOf b = rest.idxOf b + 1 := by
      have hne : b ≠ a := of_decide_eq_true (List.mem_filter.mp hb).2
      exact List.idxOf_cons_ne rest (Ne.symm hne)
    refine List.pairwise_cons.mpr ⟨?_, ?_⟩
    · intro b hb
      rw [hafter hb, List.idxOf_cons_self]
      exact Nat.succ_pos _
    · apply (ih.filter _).imp_of_mem
      intro b c hb hc hlt
      rw [hafter hb, hafter hc]
      exact Nat.succ_lt_succ hlt

end Distinct

namespace TypeDescriptor

/-- No two slots of a type have the same name and type. -/
theorem nodup_slot_keys (d : TypeDescriptor) : (d.slots.map Slot.key).Nodup :=
  nodup_map_distinctBy Slot.key _

/-- The slots are those of the parameters and of the mutable properties. -/
theorem mem_slot_keys_iff {d : TypeDescriptor} {k : String × TypeRef} :
    k ∈ d.slots.map Slot.key ↔
      ∃ p ∈ d.parameters ++ d.mutableProperties, (p.name, p.type) = k := by
  rw [slots, mem_map_distinctBy, List.map_append, List.map_map, List.map_map, ← List.mem_map,
    List.map_append]
  rfl

end TypeDescriptor

end ObjectMapping
