import ObjectMapping.Proofs.TypeRef.Recognition

namespace ObjectMapping

namespace TypeRef

mutual

def names : TypeRef → List String
  | ⟨name, arguments, _⟩ => name :: namesOf arguments

def namesOf : List TypeRef → List String
  | [] => []
  | t :: ts => names t ++ namesOf ts

end

/-- The types that have a written form of their own. -/
structure Representable (type : TypeRef) : Prop where
  names : ∀ name ∈ type.names, name.toList ≠ [] ∧ ∀ c ∈ name.toList, isNameChar c = true
  nesting_le : type.nesting ≤ 32

/-! ### Names -/

theorem mem_namesOf {name : String} {types : List TypeRef} :
    name ∈ namesOf types ↔ ∃ t ∈ types, name ∈ t.names := by
  induction types with
  | nil => simp [namesOf]
  | cons t ts ih => simp [namesOf, ih]

theorem Representable.argument {type a : TypeRef} (h : type.Representable)
    (ha : a ∈ type.arguments) : a.Representable := by
  obtain ⟨name, arguments, nullable⟩ := type
  constructor
  case names =>
    intro n hn
    exact h.names n (List.mem_cons_of_mem _ (mem_namesOf.mpr ⟨a, ha, hn⟩))
  case nesting_le =>
    have hnesting : 0 + nestingOf arguments ≤ 32 := by
      rw [Nat.zero_add]
      exact h.nesting_le
    have hle := (add_nestingOf_le_iff.mp hnesting).2 a ha
    omega

mutual

theorem hasWildcard_iff : (type : TypeRef) → (type.hasWildcard = true ↔ wildcardName ∈ type.names)
  | ⟨name, arguments, _⟩ => by
    rw [hasWildcard, names, Bool.or_eq_true, decide_eq_true_eq, anyHasWildcard_iff arguments,
      List.mem_cons, eq_comm (a := name)]

theorem anyHasWildcard_iff :
    (types : List TypeRef) → (anyHasWildcard types = true ↔ wildcardName ∈ namesOf types)
  | [] => by simp [anyHasWildcard, namesOf]
  | t :: ts => by simp [anyHasWildcard, namesOf, hasWildcard_iff t, anyHasWildcard_iff ts]

end

theorem Head.isName {x : List Char} {name : String} (hx : Head x name) : IsName name.toList := by
  obtain ⟨-, hx, -⟩ := hx
  rwa [String.toList_ofList]

mutual

/-- All names in a type that is derived may stand for names. -/
theorem Derives.isName {x : List Char} {type : TypeRef} :
    (h : Derives x type) → ∀ name ∈ type.names, IsName name.toList
  | .type hx hy _, name, hname => by
    rcases List.mem_cons.1 hname with rfl | hname
    · exact hx.isName
    · exact hy.isName name hname

theorem DerivesArguments.isName {y : List Char} {arguments : List TypeRef} :
    (h : DerivesArguments y arguments) → ∀ name ∈ namesOf arguments, IsName name.toList
  | .some hx _, name, hname => hx.isName name hname

theorem DerivesList.isName {x : List Char} {types : List TypeRef} :
    (h : DerivesList x types) → ∀ name ∈ namesOf types, IsName name.toList
  | .one hx, name, hname => by
    rw [namesOf, namesOf, List.append_nil] at hname
    exact hx.isName name hname
  | .more hx hy, name, hname => by
    rcases List.mem_append.1 hname with hname | hname
    · exact hx.isName name hname
    · exact hy.isName name hname

end

/-- A name other than the wildcard consists of characters of names. -/
theorem IsName.letters_of_ne {name : String} (hx : IsName name.toList) (hne : name ≠ wildcardName) :
    name.toList ≠ [] ∧ ∀ c ∈ name.toList, isNameChar c = true := by
  generalize hchars : name.toList = x at hx
  cases hx with
  | wildcard =>
    refine absurd ?_ hne
    rw [← String.ofList_toList (s := name), hchars]
    rfl
  | letters hempty hx => exact ⟨hempty, hx⟩

/-! ### Derivations of written forms -/

theorem Derives.prepend_blank {b x : List Char} {type : TypeRef} (hb : Blank b)
    (hx : Derives x type) : Derives (b ++ x) type := by
  obtain ⟨⟨hb', hx, ha⟩, hy, hz⟩ := hx
  have hhead := Head.intro (hb.append hb') hx ha
  have hderives := Derives.type hhead hy hz
  simpa using hderives

mutual

/-- The written form of a type is a text for it, if its names may stand for names. -/
theorem derives_toChars : (type : TypeRef) →
    (hnames : ∀ name ∈ type.names, IsName name.toList) → Derives type.toChars type
  | ⟨name, arguments, nullable⟩, hnames => by
    obtain ⟨hname, hnames⟩ := List.forall_mem_cons.1 hnames
    have hhead : Head name.toList name := by
      have hbare := Head.intro (b := []) (a := []) nofun hname nofun
      simpa using hbare
    have harguments := derivesArguments_argumentChars arguments hnames
    have hmark : Mark (if nullable then ['?'] else []) nullable := by
      cases nullable with
      | false => exact .absent
      | true => exact .present nofun
    rw [toChars, List.append_assoc]
    exact .type hhead harguments hmark

theorem derivesArguments_argumentChars : (types : List TypeRef) →
    (hnames : ∀ name ∈ namesOf types, IsName name.toList) →
      DerivesArguments (argumentChars types) types
  | [], _ => .none
  | t :: ts, hnames => by
    obtain ⟨ht, hts⟩ := List.forall_mem_append.1 hnames
    obtain ⟨y, hy, hlist⟩ :=
      derivesList_laterArgumentChars ts hts t.toChars t (derives_toChars t ht)
    rw [argumentChars, hy]
    exact .some hlist nofun

/-- Behind the first argument stand the others, up to the closing bracket. -/
theorem derivesList_laterArgumentChars : (types : List TypeRef) →
    (hnames : ∀ name ∈ namesOf types, IsName name.toList) → (x : List Char) → (first : TypeRef) →
    (hx : Derives x first) →
      ∃ y, x ++ laterArgumentChars types = y ++ ['>'] ∧ DerivesList y (first :: types)
  | [], _, x, _, hx => ⟨x, rfl, .one hx⟩
  | t :: ts, hnames, x, first, hx => by
    obtain ⟨ht, hts⟩ := List.forall_mem_append.1 hnames
    -- the blank behind the comma belongs to the next argument
    have hspace : Derives ([' '] ++ t.toChars) t :=
      (derives_toChars t ht).prepend_blank (.singleton (by decide))
    obtain ⟨y, hy, hlist⟩ := derivesList_laterArgumentChars ts hts ([' '] ++ t.toChars) t hspace
    refine ⟨x ++ ',' :: y, ?_, .more hx hlist⟩
    rw [List.append_assoc, List.cons_append, ← hy]
    rfl

end

/-! ### Reading written forms -/

theorem Representable.derives_text {type : TypeRef} (h : type.Representable) :
    Derives type.text.toList type := by
  rw [text, String.toList_ofList]
  apply derives_toChars
  intro name hname
  obtain ⟨hne, hchars⟩ := h.names name hname
  exact .letters hne hchars

theorem Representable.hasWildcard_eq_false {type : TypeRef} (h : type.Representable) :
    type.hasWildcard = false := by
  rw [← Bool.not_eq_true, hasWildcard_iff]
  intro hmem
  have hstar := (h.names _ hmem).2 '*' (by decide)
  simp at hstar

/-- A text is read as the type that the grammar derives from it, if that is representable. -/
theorem read_eq_ok_iff {input : String} {type : TypeRef} :
    read input = .ok type ↔ Derives input.toList type ∧ type.Representable := by
  constructor
  · intro h
    obtain ⟨found, hfound, hconcrete⟩ : ∃ found, readPattern input = .ok found ∧
        requireConcrete input found = .ok type := by
      unfold read at h
      cases hfound : readPattern input with
      | error e =>
        rw [hfound] at h
        cases h
      | ok found =>
        rw [hfound] at h
        exact ⟨found, rfl, h⟩
    unfold requireConcrete at hconcrete
    split at hconcrete
    · cases hconcrete
    · rename_i hwild
      cases hconcrete
      -- the grammar allows the wildcard as a name, and it is the only one with other characters
      obtain ⟨hderives, hnesting⟩ := readPattern_eq_ok_iff.1 hfound
      refine ⟨hderives, ?_, hnesting⟩
      intro name hname
      apply (hderives.isName name hname).letters_of_ne
      rintro rfl
      exact hwild ((hasWildcard_iff type).2 hname)
  · rintro ⟨hderives, hrep⟩
    have hfound := readPattern_eq_ok_iff.2 ⟨hderives, hrep.nesting_le⟩
    rw [read, hfound]
    change requireConcrete input type = .ok type
    rw [requireConcrete, hrep.hasWildcard_eq_false]
    rfl

/-- A type is read from its written form exactly if it is representable. -/
theorem read_text_iff {type : TypeRef} :
    read type.text = .ok type ↔ type.Representable := by
  rw [read_eq_ok_iff]
  exact ⟨And.right, fun h => ⟨h.derives_text, h⟩⟩

instance (type : TypeRef) : Decidable type.Representable :=
  decidable_of_iff (read type.text = .ok type) read_text_iff

/-- Written forms and types are inverse to each other on the representable types, and on no
others. -/
theorem read_text_inverse :
    (∀ type, read type.text = .ok type ↔ type.Representable) ∧
      (∀ input type, read input = .ok type → type.Representable) ∧
      (∀ input type, read input = .ok type → read type.text = read input) ∧
      (∀ input₁ input₂ s t, read input₁ = .ok s → read input₂ = .ok t →
        (s = t ↔ s.text = t.text)) := by
  have hread : ∀ input type, read input = .ok type → type.Representable :=
    fun _ _ h => (read_eq_ok_iff.1 h).2
  refine ⟨fun _ => read_text_iff, hread, ?_, ?_⟩
  · intro input type h
    rw [h]
    exact read_text_iff.2 (hread input type h)
  · intro input₁ input₂ s t hs ht
    constructor
    · exact congrArg text
    · intro htext
      have hs' := read_text_iff.2 (hread input₁ s hs)
      have ht' := read_text_iff.2 (hread input₂ t ht)
      rw [htext, ht'] at hs'
      exact (Except.ok.inj hs').symm

end TypeRef

namespace Sample

open TypeRef in
theorem spaced_respelled :
    read spaced = .ok spacedType ∧ spacedType.Representable ∧
      spacedType.text = "Map<String, List<Int?>>?" ∧ read spacedType.text = read spaced ∧
      read "Map<String,List<Int?>>" = .ok spacedType.toNonNull ∧
      spacedType.text ≠ spacedType.toNonNull.text ∧
      ¬Representable { name := "List<Int>" } := by
  obtain ⟨htext, hrep, hagain, hequal⟩ := read_text_inverse
  have hread : read spaced = .ok spacedType := by decide +kernel
  have hother : read "Map<String,List<Int?>>" = .ok spacedType.toNonNull := by decide +kernel
  refine ⟨hread, hrep _ _ hread, by decide +kernel, hagain _ _ hread, hother, ?_, ?_⟩
  · have hne : spacedType ≠ spacedType.toNonNull := by decide
    exact fun heq => hne ((hequal _ _ _ _ hread hother).2 heq)
  · -- its text is that of a list of numbers, and is read as one
    rw [← htext]
    decide +kernel

end Sample

end ObjectMapping
