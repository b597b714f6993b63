import ObjectMapping.Descriptor.Codec
import ObjectMapping.SortedTable

/-!
Catalogs of types: descriptors in the order in which their names came in, and an index with the
place of each name. A descriptor of a name that is there already takes the place of the earlier one.
-/

namespace ObjectMapping

namespace Catalog

def Indexes (index : SortedTable Nat) (types : List TypeDescriptor) : Prop :=
  ∀ name i, index.find? name = some i ↔ (types.map (·.name))[i]? = some name

namespace Indexes

variable {index : SortedTable Nat} {types : List TypeDescriptor} {d : TypeDescriptor} {i : Nat}

theorem nil : Indexes {} [] := by
  intro name i
  simp [SortedTable.find?]

/-- No place is behind the last descriptor. -/
theorem lt_length {name : String} (h : Indexes index types) (hi : index.find? name = some i) :
    i < types.length := by
  obtain ⟨hlt, _⟩ := List.getElem?_eq_some_iff.mp ((h name i).mp hi)
  rwa [List.length_map] at hlt

/-- A descriptor in place of one of its name leaves the places as they are. -/
theorem set (h : Indexes index types) (hi : index.find? d.name = some i) :
    Indexes index (types.set i d) := by
  have hnames : (types.set i d).map (·.name) = types.map (·.name) := by
    obtain ⟨hlt, hname⟩ := List.getElem?_eq_some_iff.mp ((h d.name i).mp hi)
    rw [List.map_set, ← hname, List.set_getElem_self]
  intro name j
  rw [hnames]
  exact h name j

/-- A descriptor of a new name has the place behind all others. -/
theorem append (h : Indexes index types) (hd : index.find? d.name = none) :
    Indexes (index.insert d.name types.length) (types ++ [d]) := by
  intro name j
  have hj : ((types ++ [d]).map (·.name))[j]? = some name ↔
      (types.map (·.name))[j]? = some name ∨ (name = d.name ∧ types.length = j) := by
    rw [List.map_append, List.getElem?_append, List.length_map]
    split
    · have hne : types.length ≠ j := by omega
      simp [hne]
    · -- only the new descriptor is this far behind
      have hnone : (types.map (·.name))[j]? = none :=
        List.getElem?_eq_none (by rw [List.length_map]; omega)
      have hlast : j - types.length = 0 ↔ types.length = j := by omega
      simp [List.getElem?_singleton, hnone, hlast, and_comm, eq_comm]
  rw [hj, ← h name j, SortedTable.find?_insert]
  split
  · rename_i hname
    rw [hname]
    simp [hd]
  · rename_i hne
    simp [hne]

end Indexes

end Catalog

/-- Descriptors of types, no two of one name, with an index of their places. -/
structure Catalog where
  types : List TypeDescriptor := []
  index : SortedTable Nat := {}
  indexed : Catalog.Indexes index types := by exact Catalog.Indexes.nil

namespace Catalog

def place? (c : Catalog) (name : String) : Option (Fin c.types.length) :=
  (c.index.find? name).pmap Fin.mk fun _ hi => c.indexed.lt_length hi

/-- Enters a descriptor, in place of an earlier one of its name. -/
def insert (c : Catalog) (d : TypeDescriptor) : Catalog :=
  match h : c.index.find? d.name with
  | some i => ⟨c.types.set i d, c.index, c.indexed.set h⟩
  | none => ⟨c.types ++ [d], c.index.insert d.name c.types.length, c.indexed.append h⟩

def ofList (types : List TypeDescriptor) : Catalog :=
  types.foldl insert {}

def describe? (c : Catalog) (name : String) : Option TypeDescriptor :=
  (c.place? name).map c.types.get

def names (c : Catalog) : List String :=
  c.types.map (·.name)

def size (c : Catalog) : Nat :=
  c.types.length

def toJson (c : Catalog) : Json :=
  .array (c.types.map TypeDescriptor.toJson)

def ofJson (j : Json) : Except Json.DecodeError Catalog :=
  ofList <$> j.asList TypeDescriptor.ofJson

def outline : Json.Outline :=
  .ofItems TypeDescriptor.ofJson TypeDescriptor.outline

end Catalog

end ObjectMapping
