import Mathlib.Data.List.Induction
import ObjectMapping.Catalog
import ObjectMapping.Proofs.SortedTable

namespace ObjectMapping.Catalog

variable {c c' : Catalog} {types : List TypeDescriptor} {d other : TypeDescriptor} {name : String}
  {i : Nat}

/-! ### The index -/

theorem index_eq_none_iff : c.index.find? name = none ↔ name ∉ c.names := by
  rw [Option.eq_none_iff_forall_ne_some, names, List.mem_iff_getElem?, not_exists]
  exact forall_congr' fun i => not_congr (c.indexed name i)

theorem index_of_getElem? (h : c.types[i]? = some d) : c.index.find? d.name = some i := by
  rw [c.indexed, List.getElem?_map, h, Option.map_some]

/-- A name is that of the descriptor in its place and of no other. -/
theorem name_eq_iff_place {j : Nat} (hi : c.index.find? name = some i)
    (hj : c.types[j]? = some other) : other.name = name ↔ i = j := by
  constructor
  · rintro rfl
    rw [index_of_getElem? hj] at hi
    exact (Option.some.inj hi).symm
  · rintro rfl
    have hname := (c.indexed name i).mp hi
    rw [List.getElem?_map, hj] at hname
    exact Option.some.inj hname

/-- No two types of a catalog have the same name. -/
theorem nodup_names (c : Catalog) : c.names.Nodup := by
  rw [List.nodup_iff_getElem?_ne_getElem?]
  intro i j hij hj heq
  have hname : c.names[j]? = some c.names[j] := List.getElem?_eq_getElem hj
  -- a name has one place in the index only
  have hi := (c.indexed _ i).mpr (heq.trans hname)
  rw [(c.indexed _ j).mpr hname] at hi
  exact absurd (Option.some.inj hi) (ne_of_gt hij)

/-- The descriptors settle the index. -/
theorem ext (h : c.types = c'.types) : c = c' := by
  have hindex : c.index = c'.index := by
    apply SortedTable.ext_find?
    intro name
    ext i
    rw [c.indexed name i, c'.indexed name i, h]
  obtain ⟨types, index, _⟩ := c
  cases h
  cases hindex
  rfl

/-- The descriptor found under a name is the one of the catalog with that name. -/
theorem describe?_eq_some_iff : c.describe? name = some d ↔ d ∈ c.types ∧ d.name = name := by
  rw [describe?, place?]
  simp only [Option.map_eq_some_iff, Option.pmap_eq_some_iff]
  constructor
  · rintro ⟨_, ⟨i, hlt, hi, rfl⟩, rfl⟩
    have hname := (c.indexed name i).mp hi
    rw [List.getElem?_map, List.getElem?_eq_getElem hlt, Option.map_some] at hname
    exact ⟨List.get_mem c.types ⟨i, hlt⟩, Option.some.inj hname⟩
  · rintro ⟨hd, rfl⟩
    obtain ⟨i, hlt, rfl⟩ := List.getElem_of_mem hd
    exact ⟨⟨i, hlt⟩, ⟨i, hlt, index_of_getElem? (List.getElem?_eq_getElem hlt), rfl⟩, rfl⟩

/-! ### One insertion -/

theorem types_insert_of_some (hi : c.index.find? d.name = some i) :
    (c.insert d).types = c.types.set i d := by
  unfold insert
  split
  · rename_i j hj
    rw [hi] at hj
    cases hj
    rfl
  · rename_i hnone
    rw [hi] at hnone
    cases hnone

theorem types_insert_of_notMem (h : d.name ∉ c.names) : (c.insert d).types = c.types ++ [d] := by
  rw [← index_eq_none_iff] at h
  unfold insert
  split
  · rename_i j hj
    rw [h] at hj
    cases hj
  · rfl

/-- A name that is there already keeps its place. -/
theorem names_insert_of_mem (h : d.name ∈ c.names) : (c.insert d).names = c.names := by
  obtain ⟨i, hlt, hname⟩ := List.getElem_of_mem h
  have hi := (c.indexed d.name i).mpr (List.getElem?_eq_some_iff.mpr ⟨hlt, hname⟩)
  rw [names, types_insert_of_some hi, List.map_set, ← hname]
  exact List.set_getElem_self hlt

theorem names_insert_of_notMem (h : d.name ∉ c.names) :
    (c.insert d).names = c.names ++ [d.name] := by
  rw [names, types_insert_of_notMem h, List.map_append]
  rfl

/-- Only a descriptor of the same name gives way. -/
theorem mem_types_insert :
    other ∈ (c.insert d).types ↔ other = d ∨ (other ∈ c.types ∧ other.name ≠ d.name) := by
  cases hd : c.index.find? d.name with
  | none =>
    have hnew := index_eq_none_iff.mp hd
    have hother (h : other ∈ c.types) : other.name ≠ d.name :=
      fun heq => hnew (heq ▸ List.mem_map_of_mem h)
    rw [types_insert_of_notMem hnew, List.mem_append, List.mem_singleton, or_comm]
    exact or_congr_right (iff_self_and.mpr hother)
  | some i =>
    have hlt : i < c.types.length := c.indexed.lt_length hd
    rw [types_insert_of_some hd]
    constructor
    · intro h
      obtain ⟨j, hj⟩ := List.mem_iff_getElem?.mp h
      -- the descriptor takes one place, and no other has its name
      rw [List.getElem?_set] at hj
      split at hj
      · exact Or.inl (Option.some.inj hj).symm
      · rename_i hij
        exact Or.inr ⟨List.mem_of_getElem? hj, mt (name_eq_iff_place hd hj).mp hij⟩
    · rintro (rfl | ⟨h, hname⟩)
      · exact List.mem_set hlt _
      · obtain ⟨j, hj⟩ := List.mem_iff_getElem?.mp h
        have hij : i ≠ j := mt (name_eq_iff_place hd hj).mpr hname
        exact List.mem_of_getElem? ((List.getElem?_set_ne hij).trans hj)

/-- An insertion changes what is found under its own name only. -/
theorem describe?_insert (c : Catalog) (d : TypeDescriptor) (name : String) :
    (c.insert d).describe? name = if name = d.name then some d else c.describe? name := by
  ext other
  rw [describe?_eq_some_iff, mem_types_insert]
  split
  · rename_i hname
    subst hname
    constructor
    · rintro ⟨rfl | ⟨_, hne⟩, heq⟩
      · rfl
      · exact absurd heq hne
    · rintro ⟨⟩
      exact ⟨Or.inl rfl, rfl⟩
  · rename_i hne
    rw [describe?_eq_some_iff]
    constructor
    · rintro ⟨rfl | ⟨h, _⟩, heq⟩
      · exact absurd heq.symm hne
      · exact ⟨h, heq⟩
    · rintro ⟨h, rfl⟩
      exact ⟨Or.inr ⟨h, hne⟩, rfl⟩

/-! ### Any number of insertions -/

def last? (types : List TypeDescriptor) (name : String) : Option TypeDescriptor :=
  (types.filter (·.name = name)).getLast?

theorem last?_append_singleton :
    last? (types ++ [d]) name = if name = d.name then some d else last? types name := by
  rw [last?, List.filter_append]
  split
  · rename_i hname
    rw [List.filter_cons_of_pos (by simpa using hname.symm), List.filter_nil, List.getLast?_concat]
  · rename_i hne
    rw [List.filter_cons_of_neg (by simpa using Ne.symm hne), List.filter_nil, List.append_nil,
      last?]

theorem ofList_append_singleton (types : List TypeDescriptor) (d : TypeDescriptor) :
    ofList (types ++ [d]) = (ofList types).insert d := by
  rw [ofList, List.foldl_append]
  rfl

/-- Of several descriptors of one name the last is found. -/
theorem describe?_ofList (types : List TypeDescriptor) (name : String) :
    (ofList types).describe? name = last? types name := by
  -- the last descriptor comes in last
  induction types using List.reverseRecOn with
  | nil => rfl
  | append_singleton types d ih =>
    rw [ofList_append_singleton, describe?_insert, last?_append_singleton, ih]

/-- Names are listed in the order in which they first occur. -/
theorem names_ofList (types : List TypeDescriptor) :
    (ofList types).names = (types.map (·.name)).eraseDups := by
  induction types using List.reverseRecOn with
  | nil => rfl
  | append_singleton types d ih =>
    rw [ofList_append_singleton, List.map_append, List.map_singleton, List.eraseDups_append, ← ih]
    have hmem : d.name ∈ (ofList types).names ↔ d.name ∈ types.map (·.name) := by
      rw [ih, List.mem_eraseDups]
    -- a name that is there keeps its place, and a new one goes to the end
    by_cases h : d.name ∈ types.map (·.name)
    · have hgone : [d.name].removeAll (types.map (·.name)) = [] := by simpa [List.removeAll] using h
      rw [names_insert_of_mem (hmem.mpr h), hgone, List.eraseDups_nil, List.append_nil]
    · have hleft : [d.name].removeAll (types.map (·.name)) = [d.name] := by
        simpa [List.removeAll] using h
      rw [names_insert_of_notMem (mt hmem.mp h), hleft]
      rfl

theorem mem_ofList (h : d ∈ (ofList types).types) : d ∈ types := by
  have hlast := describe?_eq_some_iff.mpr ⟨h, rfl⟩
  rw [describe?_ofList] at hlast
  exact List.mem_of_mem_filter (List.mem_of_getLast? hlast)

/-- Each name in order has its descriptor. -/
theorem filterMap_describe?_names (c : Catalog) : c.names.filterMap c.describe? = c.types := by
  have hfound : ∀ d ∈ c.types, (c.describe? ∘ (·.name)) d = some d :=
    fun d hd => describe?_eq_some_iff.mpr ⟨hd, rfl⟩
  rw [names, List.filterMap_map, List.filterMap_congr hfound, List.filterMap_some]

/-- Descriptors without a repeated name are listed as they are. -/
theorem types_ofList (h : (types.map (·.name)).Nodup) : (ofList types).types = types := by
  induction types using List.reverseRecOn with
  | nil => rfl
  | append_singleton types d ih =>
    rw [List.map_append, List.nodup_append] at h
    obtain ⟨htypes, _, hd⟩ := h
    have hnew : d.name ∉ (ofList types).names := by
      rw [names, ih htypes]
      exact fun hmem => hd _ hmem _ (List.mem_singleton_self _) rfl
    rw [ofList_append_singleton, types_insert_of_notMem hnew, ih htypes]

/-- A catalog is put together again from its descriptors. -/
theorem ofList_types (c : Catalog) : ofList c.types = c :=
  ext (types_ofList c.nodup_names)

/-- A catalog is a map that keeps the order of insertion, whatever is inserted. No two descriptors
have one name; the index has each name with its place, which is never beyond the end; a name has the
descriptor that came in last; the names stand in the order in which they came in first, also when a
descriptor gives way to another; and the descriptors in this order make up the catalog again. -/
theorem ofList_insertionOrdered (types : List TypeDescriptor) :
    ((ofList types).types.map (·.name)).Nodup ∧
    (∀ name i, (ofList types).index.find? name = some i ↔
      ((ofList types).types.map (·.name))[i]? = some name) ∧
    (∀ name i, (ofList types).index.find? name = some i → i < (ofList types).types.length) ∧
    (∀ name, (ofList types).describe? name = last? types name) ∧
    (ofList types).types = (types.map (·.name)).eraseDups.filterMap (last? types) ∧
    (∀ d, d.name ∈ types.map (·.name) →
      ((ofList types).insert d).types.map (·.name) = (ofList types).types.map (·.name)) ∧
    ofList (ofList types).types = ofList types := by
  refine ⟨(ofList types).nodup_names, (ofList types).indexed,
    fun _ _ => (ofList types).indexed.lt_length, describe?_ofList types, ?_, ?_, ofList_types _⟩
  · have hlast : (ofList types).describe? = last? types := funext (describe?_ofList types)
    rw [← names_ofList, ← hlast, filterMap_describe?_names]
  · intro d hd
    apply names_insert_of_mem
    rwa [names_ofList, List.mem_eraseDups]

end ObjectMapping.Catalog

namespace ObjectMapping.Sample

def drafts : List TypeDescriptor :=
  [{ name := "Order" }, { name := "Invoice" }, { name := "Order", constructors := [⟨[]⟩] }]

/-- The later order has the place of the earlier one, in front of the invoice, and an invoice that
comes in then leaves it there. -/
theorem drafts_ordered :
    (Catalog.ofList drafts).types =
        [{ name := "Order", constructors := [⟨[]⟩] }, { name := "Invoice" }] ∧
      (Catalog.ofList drafts).index.find? "Invoice" = some 1 ∧
      1 < (Catalog.ofList drafts).types.length ∧
      (Catalog.ofList drafts).describe? "Order" =
        some { name := "Order", constructors := [⟨[]⟩] } ∧
      (Catalog.ofList drafts).describe? "Receipt" = none ∧
      ((Catalog.ofList drafts).insert { name := "Invoice" }).types.map (·.name) =
        ["Order", "Invoice"] ∧
      Catalog.ofList (Catalog.ofList drafts).types = Catalog.ofList drafts := by
  obtain ⟨_, hindex, hbounds, hdescribe, htypes, hreplace, hrebuilt⟩ :=
    Catalog.ofList_insertionOrdered drafts
  have hordered : (Catalog.ofList drafts).types =
      [{ name := "Order", constructors := [⟨[]⟩] }, { name := "Invoice" }] := by
    rw [htypes]
    decide
  have hinvoice : (Catalog.ofList drafts).index.find? "Invoice" = some 1 := by
    rw [hindex, hordered]
    rfl
  refine ⟨hordered, hinvoice, hbounds _ _ hinvoice, ?_, ?_, ?_, hrebuilt⟩
  · rw [hdescribe]
    decide
  · rw [hdescribe]
    decide
  · rw [hreplace _ (by decide), hordered]
    rfl

end ObjectMapping.Sample
