import Mathlib.Data.List.Sublists
import ObjectMapping.Proofs.Override.Partition
import ObjectMapping.Proofs.SortedTable

/-!
What a list of declarations comes to. Those that conflict are told of in order and do nothing
else. Each name has what the last other declaration for it asks for, so that only the order among
declarations for one name matters.
-/

namespace ObjectMapping

/-- What a declaration can give, in the order in which a conflict tells of it. -/
def Conflict.order : List String :=
  ["source", "constant", "expression"]

structure Conflict.IsOf (c : Conflict) (d : OverrideDecl) : Prop where
  target : c.target = d.target
  -- nothing is told twice
  inOrder : c.kinds.Sublist order
  source : "source" ∈ c.kinds ↔ d.source.isSome
  constant : "constant" ∈ c.kinds ↔ d.constant.isSome
  expression : "expression" ∈ c.kinds ↔ d.expression.isSome

namespace OverrideDecl

variable {d : OverrideDecl} {c c' : Conflict} {k : OverrideKind}

inductive AsksFor (d : OverrideDecl) : OverrideKind → Prop where
  | ignore (hi : d.ignore = true) : d.AsksFor .ignore
  | source {name : String} (hi : d.ignore = false) (hs : d.source = some name) :
    d.AsksFor (.source name)
  | constant {value : String} (hi : d.ignore = false) (hc : d.constant = some value) :
    d.AsksFor (.constant value)
  | expression {text : String} (hi : d.ignore = false) (he : d.expression = some text) :
    d.AsksFor (.expression text)
  -- without anything given it asks for the source property of its own name
  | bare (hi : d.ignore = false) (hs : d.source = none) (hc : d.constant = none)
      (he : d.expression = none) : d.AsksFor (.source d.target)

theorem asksFor_effect (d : OverrideDecl) : d.AsksFor d.effect := by
  cases hi : d.ignore with
  | true =>
    rw [effect_of_ignore hi]
    exact .ignore hi
  | false =>
    rw [effect, hi, if_neg Bool.false_ne_true, kind]
    split
    case h_1 hc => exact .constant hi hc
    case h_2 he => exact .expression hi he
    case h_3 hs => exact .source hi hs
    case h_4 hc he hs => exact .bare hi hs hc he

/-- A declaration without conflict asks for one thing only. -/
theorem asksFor_iff (hd : ¬ d.Conflicts) : d.AsksFor k ↔ k = d.effect := by
  constructor
  · intro h
    cases h with
    | ignore hi => exact (effect_of_ignore hi).symm
    | source hi hs => exact (effect_of_source hd hi hs).symm
    | constant hi hc => exact (effect_of_constant hi hc).symm
    | expression hi he => exact (effect_of_expression hd hi he).symm
    | bare hi hs hc he => exact (effect_of_bare hi hs hc he).symm
  · rintro rfl
    exact d.asksFor_effect

/-! ### The conflict of a declaration -/

theorem isOf_conflict (d : OverrideDecl) : d.conflict.IsOf d := by
  obtain ⟨_, source, constant, expression, _⟩ := d
  -- there are eight ways of giving some of the three
  cases source <;> cases constant <;> cases expression <;> constructor <;>
    simp [conflict, given, Conflict.order]

/-- What is told in order is known by what there is of it. -/
theorem kinds_eq_of_isOf (h : c.IsOf d) (h' : c'.IsOf d) : c.kinds = c'.kinds := by
  -- each of the eight sublists can be looked at
  have hknown : ∀ kinds ∈ Conflict.order.sublists,
      kinds = Conflict.order.filter (· ∈ kinds) := by decide
  have hmem : ∀ kind ∈ Conflict.order, kind ∈ c.kinds ↔ kind ∈ c'.kinds := by
    simp [Conflict.order, h.source, h.constant, h.expression, h'.source, h'.constant,
      h'.expression]
  calc
    c.kinds = Conflict.order.filter (· ∈ c.kinds) :=
      hknown c.kinds (List.mem_sublists.mpr h.inOrder)
    _ = Conflict.order.filter (· ∈ c'.kinds) :=
      List.filter_congr fun kind hkind => decide_eq_decide.mpr (hmem kind hkind)
    _ = c'.kinds := (hknown c'.kinds (List.mem_sublists.mpr h'.inOrder)).symm

/-- There is one way only to tell of a conflict. -/
theorem isOf_iff : c.IsOf d ↔ c = d.conflict := by
  constructor
  · intro h
    have hkinds := kinds_eq_of_isOf h d.isOf_conflict
    obtain ⟨target, kinds⟩ := c
    cases h.target
    cases hkinds
    rfl
  · rintro rfl
    exact d.isOf_conflict

theorem forall₂_isOf_iff {cs : List Conflict} {ds : List OverrideDecl} :
    List.Forall₂ Conflict.IsOf cs ds ↔ cs = ds.map conflict := by
  have hiff : Conflict.IsOf = fun c d => c = d.conflict := by
    funext c d
    exact propext isOf_iff
  rw [hiff, ← List.forall₂_map_right_iff, List.forall₂_eq_eq_eq]

end OverrideDecl

namespace OverrideSet

variable {decls decls' : List OverrideDecl} {name : String} {d : OverrideDecl}
  {s s' : OverrideSet} {cs : List Conflict}

structure IsEffectOf (s : OverrideSet) (decls : List OverrideDecl) : Prop where
  -- A name has what the last declaration for it asks for, of those that do not conflict. Without
  -- such a declaration it has nothing.
  find? : ∀ name, Option.Rel OverrideDecl.AsksFor (effective? decls name) (s.find? name)
  ascending : s.keys.Pairwise (· < ·)
  mem_keys : ∀ name, name ∈ s.keys ↔ ∃ d ∈ decls, d.target = name ∧ ¬ d.Conflicts
  -- sorting the names gives the same list, in whatever order they were listed
  listed : ∀ names : List String, names.Nodup → (∀ name, name ∈ names ↔ (s.find? name).isSome) →
    names.mergeSort = s.keys
  size : s.size = s.keys.length

/-! ### The last declaration -/

theorem not_conflicts_of_effective? (h : effective? decls name = some d) : ¬ d.Conflicts := by
  have hd := (List.mem_filter.mp (List.mem_of_getLast? h)).2
  exact (of_decide_eq_true hd).2

theorem isSome_effective?_iff :
    (effective? decls name).isSome ↔ ∃ d ∈ decls, d.target = name ∧ ¬ d.Conflicts := by
  rw [effective?, List.getLast?_isSome, ne_eq, List.filter_eq_nil_iff]
  simp

/-- Only declarations for the name itself matter, in their order. -/
theorem effective?_congr (h : decls'.filter (·.target = name) = decls.filter (·.target = name)) :
    effective? decls' name = effective? decls name := by
  -- whether a declaration conflicts can be asked after the name
  have hsplit (ds : List OverrideDecl) :
      effective? ds name = ((ds.filter (·.target = name)).filter (¬ ·.Conflicts)).getLast? := by
    rw [effective?, List.filter_filter]
    congr 1
    apply List.filter_congr
    intro d _
    rw [Bool.decide_and, Bool.and_comm]
  rw [hsplit, hsplit, h]

/-! ### The effect -/

/-- Sorting declarations gives what they come to. -/
theorem isEffectOf_partition (decls : List OverrideDecl) :
    (partition decls).overrides.IsEffectOf decls where
  find? name := by
    rw [find?_partition]
    cases effective? decls name with
    | none => exact .none
    | some d => exact .some d.asksFor_effect
  ascending := SortedTable.pairwise_keys _
  mem_keys name := by
    rw [SortedTable.mem_keys_iff, find?_partition, Option.isSome_map, isSome_effective?_iff]
  listed _ := SortedTable.mergeSort_eq_keys
  size := (List.length_map _).symm

theorem IsEffectOf.find?_eq (h : s.IsEffectOf decls) (name : String) :
    s.find? name = (effective? decls name).map OverrideDecl.effect := by
  have hname := h.find? name
  generalize hd? : effective? decls name = d? at hname ⊢
  generalize SortedTable.find? s name = k? at hname ⊢
  -- there is a declaration and a kind, or neither
  cases hname with
  | none => rfl
  | some hk =>
    have hd := not_conflicts_of_effective? hd?
    exact congrArg some ((OverrideDecl.asksFor_iff hd).mp hk)

/-- Declarations come to one thing only. -/
theorem IsEffectOf.unique (h : s.IsEffectOf decls) (h' : s'.IsEffectOf decls) : s = s' := by
  apply SortedTable.ext_find?
  intro name
  rw [h.find?_eq name, h'.find?_eq name]

/-- There is a set of overrides exactly if no declaration conflicts. -/
theorem ofDecls_eq_ok_iff :
    ofDecls decls = .ok s ↔ (∀ d ∈ decls, ¬ d.Conflicts) ∧ s = (partition decls).overrides := by
  rw [ofDecls, ← conflicts_partition_eq_nil_iff, ← List.isEmpty_iff]
  split_ifs with h
  · simp [h, eq_comm]
  · simp [h]

theorem ofDecls_eq_error_iff :
    ofDecls decls = .error cs ↔ cs ≠ [] ∧ cs = (partition decls).conflicts := by
  rw [ofDecls]
  split_ifs with h
  · rw [List.isEmpty_iff] at h
    simp [h]
  · rw [List.isEmpty_iff] at h
    constructor
    · rintro ⟨⟩
      exact ⟨h, rfl⟩
    · rintro ⟨_, rfl⟩
      rfl

/-- The order of declarations counts only among those for one name. -/
theorem overrides_partition_congr
    (h : ∀ name, decls'.filter (·.target = name) = decls.filter (·.target = name)) :
    (partition decls').overrides = (partition decls).overrides := by
  apply SortedTable.ext_find?
  intro name
  rw [find?_partition, find?_partition, effective?_congr (h name)]

theorem conflicts_partition_perm (h : decls'.Perm decls) :
    (partition decls').conflicts.Perm (partition decls).conflicts := by
  rw [conflicts_partition, conflicts_partition]
  exact (h.filter _).map _

/-- Of the declarations for a name the last one without a conflict decides. Sorting declarations
tells of exactly those that conflict, in their order, and holds what the others come to; nothing
else could be told or held. All together make a set exactly if none of them conflicts, and then it
is this one; otherwise the conflicts are told. Declarations come to the same in any order that
leaves those for each name in theirs. -/
theorem partition_keepsLast (decls : List OverrideDecl) :
    List.Forall₂ Conflict.IsOf (partition decls).conflicts (decls.filter (·.Conflicts)) ∧
    (partition decls).overrides.IsEffectOf decls ∧
    (∀ cs s, List.Forall₂ Conflict.IsOf cs (decls.filter (·.Conflicts)) →
      IsEffectOf s decls → cs = (partition decls).conflicts ∧ s = (partition decls).overrides) ∧
    (∀ s, ofDecls decls = .ok s ↔
      (∀ d ∈ decls, ¬ d.Conflicts) ∧ s = (partition decls).overrides) ∧
    (∀ cs, ofDecls decls = .error cs ↔ cs ≠ [] ∧ cs = (partition decls).conflicts) ∧
    ∀ decls' : List OverrideDecl, decls'.Perm decls →
      (∀ name, decls'.filter (·.target = name) = decls.filter (·.target = name)) →
      (partition decls').overrides = (partition decls).overrides ∧
        (partition decls').conflicts.Perm (partition decls).conflicts := by
  refine ⟨?_, isEffectOf_partition decls, ?_, fun _ => ofDecls_eq_ok_iff,
    fun _ => ofDecls_eq_error_iff, ?_⟩
  · exact OverrideDecl.forall₂_isOf_iff.mpr (conflicts_partition decls)
  · intro cs s hcs hs
    rw [conflicts_partition]
    exact ⟨OverrideDecl.forall₂_isOf_iff.mp hcs, hs.unique (isEffectOf_partition decls)⟩
  · intro decls' hperm hsame
    exact ⟨overrides_partition_congr hsame, conflicts_partition_perm hperm⟩

end OverrideSet

namespace Sample

def labelling : List OverrideDecl :=
  [{ target := "label", source := some "name" },
    { target := "code", constant := some "7", expression := some "it.code" },
    { target := "code", source := some "sku" },
    { target := "label", expression := some "it.name" },
    { target := "label", source := some "name", constant := some "none" },
    { target := "code", source := some "sku", constant := some "7", ignore := true }]

def labellingByName : List OverrideDecl :=
  [{ target := "code", constant := some "7", expression := some "it.code" },
    { target := "code", source := some "sku" },
    { target := "code", source := some "sku", constant := some "7", ignore := true },
    { target := "label", source := some "name" },
    { target := "label", expression := some "it.name" },
    { target := "label", source := some "name", constant := some "none" }]

/-- Neither the conflict behind the last good declaration for the label nor what else is given with
the one that leaves the code alone changes anything. -/
theorem labelling_settled :
    (OverrideSet.partition labelling).conflicts =
        [⟨"code", ["constant", "expression"]⟩, ⟨"label", ["source", "constant"]⟩] ∧
      (OverrideSet.partition labelling).overrides.find? "label" =
        some (.expression "it.name") ∧
      (OverrideSet.partition labelling).overrides.find? "code" = some .ignore ∧
      (OverrideSet.partition labelling).overrides.keys = ["code", "label"] ∧
      ["label", "code"].mergeSort = ["code", "label"] ∧
      OverrideSet.ofDecls labelling =
        .error [⟨"code", ["constant", "expression"]⟩, ⟨"label", ["source", "constant"]⟩] ∧
      labellingByName.Perm labelling ∧
      (∀ name, labellingByName.filter (·.target = name) = labelling.filter (·.target = name)) ∧
      (OverrideSet.partition labellingByName).overrides =
        (OverrideSet.partition labelling).overrides := by
  obtain ⟨_, heffect, hunique, _, herror, hreorder⟩ := OverrideSet.partition_keepsLast labelling
  have hconflicts : [⟨"code", ["constant", "expression"]⟩, ⟨"label", ["source", "constant"]⟩] =
      (OverrideSet.partition labelling).conflicts :=
    (hunique _ _ (OverrideDecl.forall₂_isOf_iff.mpr (by decide)) heffect).1
  have hkeys : (OverrideSet.partition labelling).overrides.keys = ["code", "label"] := by decide
  have hlisted (name : String) : name ∈ ["label", "code"] ↔
      ((OverrideSet.partition labelling).overrides.find? name).isSome := by
    rw [← SortedTable.mem_keys_iff, hkeys]
    simp [or_comm]
  have hperm : labellingByName.Perm labelling := by decide
  have hsame (name : String) :
      labellingByName.filter (·.target = name) = labelling.filter (·.target = name) := by
    by_cases hcode : "code" = name
    · subst hcode
      rfl
    by_cases hlabel : "label" = name
    · subst hlabel
      rfl
    simp [labellingByName, labelling, hcode, hlabel]
  refine ⟨hconflicts.symm, by decide, by decide, hkeys, ?_, ?_, hperm, hsame,
    (hreorder labellingByName hperm hsame).1⟩
  · rw [heffect.listed _ (by decide) hlisted, hkeys]
  · exact (herror _).mpr ⟨by decide, hconflicts⟩

end Sample

end ObjectMapping
