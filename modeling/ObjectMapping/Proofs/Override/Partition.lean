import Mathlib.Data.List.Induction
import ObjectMapping.Override.Set

namespace ObjectMapping

namespace OverrideDecl

/-- Gives several things at once without asking that the property be left alone. -/
def Conflicts (d : OverrideDecl) : Prop :=
  d.ignore = false ∧
    ((d.source.isSome ∧ d.constant.isSome) ∨ (d.source.isSome ∧ d.expression.isSome) ∨
      (d.constant.isSome ∧ d.expression.isSome))

instance (d : OverrideDecl) : Decidable d.Conflicts :=
  inferInstanceAs (Decidable (_ ∧ _))

def conflict (d : OverrideDecl) : Conflict :=
  ⟨d.target, d.given⟩

/-- What becomes of the property, unless the declaration conflicts. -/
def effect (d : OverrideDecl) : OverrideKind :=
  if d.ignore then .ignore else d.kind

/-- Several things are given if two of the three are. -/
theorem one_lt_length_given_iff (d : OverrideDecl) :
    1 < d.given.length ↔
      (d.source.isSome ∧ d.constant.isSome) ∨ (d.source.isSome ∧ d.expression.isSome) ∨
        (d.constant.isSome ∧ d.expression.isSome) := by
  unfold given
  cases d.source <;> cases d.constant <;> cases d.expression <;> simp

theorem validate_eq (d : OverrideDecl) :
    d.validate = if d.Conflicts then .error d.conflict else .ok ⟨d.target, d.effect⟩ := by
  unfold validate
  cases hignore : d.ignore with
  | true => simp [Conflicts, effect, hignore]
  | false =>
    have hconflicts : d.Conflicts ↔ 1 < d.given.length := by
      rw [one_lt_length_given_iff, Conflicts, hignore]
      exact and_iff_right rfl
    simp only [hconflicts, conflict, effect, hignore]
    rfl

/-! ### The effect by what is given -/

variable {d : OverrideDecl}

theorem effect_of_ignore (hi : d.ignore = true) : d.effect = .ignore :=
  if_pos hi

theorem effect_of_constant (hi : d.ignore = false) {value : String}
    (hv : d.constant = some value) : d.effect = .constant value := by
  simp [effect, kind, hi, hv]

theorem effect_of_expression (hd : ¬ d.Conflicts) (hi : d.ignore = false) {text : String}
    (ht : d.expression = some text) : d.effect = .expression text := by
  have hc : d.constant = none := by
    by_contra hc
    have hsome : d.constant.isSome := Option.isSome_iff_ne_none.mpr hc
    exact hd ⟨hi, Or.inr (Or.inr ⟨hsome, by simp [ht]⟩)⟩
  simp [effect, kind, hi, hc, ht]

theorem effect_of_source (hd : ¬ d.Conflicts) (hi : d.ignore = false) {property : String}
    (hs : d.source = some property) : d.effect = .source property := by
  have hc : d.constant = none := by
    by_contra hc
    have hsome : d.constant.isSome := Option.isSome_iff_ne_none.mpr hc
    exact hd ⟨hi, Or.inl ⟨by simp [hs], hsome⟩⟩
  have he : d.expression = none := by
    by_contra he
    have hsome : d.expression.isSome := Option.isSome_iff_ne_none.mpr he
    exact hd ⟨hi, Or.inr (Or.inl ⟨by simp [hs], hsome⟩)⟩
  simp [effect, kind, hi, hc, he, hs]

theorem effect_of_bare (hi : d.ignore = false) (hs : d.source = none) (hc : d.constant = none)
    (he : d.expression = none) : d.effect = .source d.target := by
  simp [effect, kind, hi, hc, he, hs]

end OverrideDecl

namespace OverrideSet

variable {decls : List OverrideDecl} {name : String} {d : OverrideDecl}

/-- The last declaration for the name, of those that do not conflict. -/
def effective? (decls : List OverrideDecl) (name : String) : Option OverrideDecl :=
  (decls.filter fun d => d.target = name ∧ ¬ d.Conflicts).getLast?

theorem partition_append_singleton (decls : List OverrideDecl) (d : OverrideDecl) :
    partition (decls ++ [d]) = (partition decls).add d := by
  simp only [partition, List.foldl_append, List.foldl_cons, List.foldl_nil]

theorem Partition.conflicts_add (p : Partition) (d : OverrideDecl) :
    (p.add d).conflicts = p.conflicts ++ if d.Conflicts then [d.conflict] else [] := by
  rw [Partition.add, d.validate_eq]
  split_ifs
  · rfl
  · exact (List.append_nil _).symm

/-- One more declaration decides for its own name, unless it conflicts. -/
theorem Partition.find?_add (p : Partition) (d : OverrideDecl) (name : String) :
    (p.add d).overrides.find? name =
      if d.target = name ∧ ¬ d.Conflicts then some d.effect else p.overrides.find? name := by
  rw [Partition.add, d.validate_eq]
  by_cases hd : d.Conflicts
  · rw [if_pos hd, if_neg fun h => h.2 hd]
  · rw [if_neg hd]
    simp only [OverrideSet.add, SortedTable.find?_insert, hd, not_false_eq_true, and_true,
      eq_comm]

/-- The last declaration decides unless it conflicts or is for another name. -/
theorem effective?_append_singleton (decls : List OverrideDecl) (d : OverrideDecl)
    (name : String) :
    effective? (decls ++ [d]) name =
      if d.target = name ∧ ¬ d.Conflicts then some d else effective? decls name := by
  rw [effective?, List.filter_append]
  split_ifs with h
  · rw [List.filter_cons_of_pos (by simpa using h), List.filter_nil, List.getLast?_concat]
  · rw [List.filter_cons_of_neg (by simpa using h), List.filter_nil, List.append_nil, effective?]

/-- Conflicts are told as they are declared. -/
theorem conflicts_partition (decls : List OverrideDecl) :
    (partition decls).conflicts = (decls.filter (·.Conflicts)).map OverrideDecl.conflict := by
  -- declarations are added at the end
  induction decls using List.reverseRecOn with
  | nil => rfl
  | append_singleton rest d ih =>
    rw [partition_append_singleton, Partition.conflicts_add, ih, List.filter_append,
      List.map_append]
    congr 1
    by_cases hd : d.Conflicts
    · simp [hd]
    · simp [hd]

theorem conflicts_partition_eq_nil_iff :
    (partition decls).conflicts = [] ↔ ∀ d ∈ decls, ¬ d.Conflicts := by
  simp [conflicts_partition, List.filter_eq_nil_iff]

/-- For each name the last declaration without a conflict is in effect. -/
theorem find?_partition (decls : List OverrideDecl) (name : String) :
    (partition decls).overrides.find? name = (effective? decls name).map OverrideDecl.effect := by
  induction decls using List.reverseRecOn with
  | nil => rfl
  | append_singleton rest d ih =>
    rw [partition_append_singleton, Partition.find?_add, effective?_append_singleton, ih]
    split_ifs
    · rfl
    · rfl

/-- One more declaration is in effect for its own name only. -/
theorem effective?_append_of_ne (decls : List OverrideDecl) (h : name ≠ d.target) :
    effective? (decls ++ [d]) name = effective? decls name := by
  rw [effective?_append_singleton, if_neg fun hd => h hd.1.symm]

theorem find?_partition_append_of_ne (decls : List OverrideDecl) (h : name ≠ d.target) :
    (partition (decls ++ [d])).overrides.find? name = (partition decls).overrides.find? name := by
  rw [find?_partition, find?_partition, effective?_append_of_ne decls h]

theorem conflicts_partition_append (decls : List OverrideDecl) (hd : ¬ d.Conflicts) :
    (partition (decls ++ [d])).conflicts = (partition decls).conflicts := by
  rw [partition_append_singleton, Partition.conflicts_add, if_neg hd, List.append_nil]

end OverrideSet

end ObjectMapping
