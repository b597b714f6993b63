import ObjectMapping.Proofs.Success
import ObjectMapping.Proofs.TypeRef.Printing
import ObjectMapping.TypeRef.Pattern

/-!
What fits a pattern. With nullability erased on both sides, these are the types that come from the
pattern as it is written by putting a type in the place of each wildcard, for any choice of types.
Question marks make no difference, neither in the type nor in the text of the pattern.
-/

namespace ObjectMapping

namespace TypeRef

mutual

def erase : TypeRef → TypeRef
  | ⟨name, arguments, _⟩ => ⟨name, eraseAll arguments, false⟩

def eraseAll : List TypeRef → List TypeRef
  | [] => []
  | t :: ts => erase t :: eraseAll ts

end

mutual

/-- The type in which each wildcard, with the arguments written behind it, is replaced by the type
that `σ` gives for its place. A place is told by the positions of the arguments that lead to it. -/
def fill (σ : List Nat → TypeRef) : TypeRef → TypeRef
  | ⟨name, arguments, nullable⟩ =>
    if name = wildcardName then σ [] else ⟨name, fillFrom σ 0 arguments, nullable⟩

def fillFrom (σ : List Nat → TypeRef) (position : Nat) : List TypeRef → List TypeRef
  | [] => []
  | t :: ts => fill (fun path => σ (position :: path)) t :: fillFrom σ (position + 1) ts

end

/-! ### Filling in -/

/-- Only the places inside the arguments count. -/
theorem fillFrom_congr {σ τ : List Nat → TypeRef} {position : Nat} {types : List TypeRef}
    (h : ∀ i path, position ≤ i → σ (i :: path) = τ (i :: path)) :
    fillFrom σ position types = fillFrom τ position types := by
  induction types generalizing position with
  | nil => rfl
  | cons t ts ih =>
    have hfirst : (fun path => σ (position :: path)) = fun path => τ (position :: path) :=
      funext fun path => h position path (Nat.le_refl position)
    rw [fillFrom, fillFrom, hfirst, ih fun i path hi => h i path (Nat.le_of_succ_le hi)]

/-- Goes by `σ` inside the argument at the given position, and by `τ` elsewhere. -/
def splice (position : Nat) (σ τ : List Nat → TypeRef) : List Nat → TypeRef
  | [] => τ []
  | i :: path => if i = position then σ path else τ (i :: path)

/-- The first argument and the others can be filled in apart from each other. -/
theorem exists_fillFrom_cons {position : Nat} {t u : TypeRef} {ts us : List TypeRef} :
    (∃ σ, fillFrom σ position (t :: ts) = u :: us) ↔
      (∃ σ, fill σ t = u) ∧ ∃ σ, fillFrom σ (position + 1) ts = us := by
  constructor
  · rintro ⟨σ, h⟩
    obtain ⟨hfirst, hothers⟩ := List.cons.inj h
    exact ⟨⟨_, hfirst⟩, ⟨σ, hothers⟩⟩
  · rintro ⟨⟨σ, rfl⟩, ⟨τ, rfl⟩⟩
    refine ⟨splice position σ τ, ?_⟩
    have hfirst : (fun path => splice position σ τ (position :: path)) = σ :=
      funext fun path => if_pos rfl
    have hothers : fillFrom (splice position σ τ) (position + 1) ts =
        fillFrom τ (position + 1) ts := by
      apply fillFrom_congr
      intro i path hi
      exact if_neg (by omega)
    rw [fillFrom, hfirst, hothers]

mutual

/-- Where there is no wildcard, nothing is filled in. -/
theorem fill_erase_of_hasWildcard (σ : List Nat → TypeRef) : (type : TypeRef) →
    (h : type.hasWildcard = false) → fill σ type.erase = type.erase
  | ⟨name, arguments, _⟩, h => by
    rw [hasWildcard, Bool.or_eq_false_iff, decide_eq_false_iff_not] at h
    rw [erase, fill, if_neg h.1, fillFrom_eraseAll_of_anyHasWildcard σ 0 arguments h.2]

theorem fillFrom_eraseAll_of_anyHasWildcard (σ : List Nat → TypeRef) (position : Nat) :
    (types : List TypeRef) → (h : anyHasWildcard types = false) →
      fillFrom σ position (eraseAll types) = eraseAll types
  | [], _ => rfl
  | t :: ts, h => by
    rw [anyHasWildcard, Bool.or_eq_false_iff] at h
    rw [eraseAll, fillFrom, fill_erase_of_hasWildcard _ t h.1,
      fillFrom_eraseAll_of_anyHasWildcard σ (position + 1) ts h.2]

end

/-! ### Question marks -/

mutual

/-- Erasing nullability takes no level away. -/
theorem nesting_erase : (type : TypeRef) → type.erase.nesting = type.nesting
  | ⟨_, arguments, _⟩ => nestingOf_eraseAll arguments

theorem nestingOf_eraseAll : (types : List TypeRef) → nestingOf (eraseAll types) = nestingOf types
  | [] => rfl
  | t :: ts => by
    rw [eraseAll, nestingOf, nestingOf, nesting_erase t, nestingOf_eraseAll ts]

end

def unmarked (x : List Char) : List Char :=
  x.filter (· ≠ '?')

theorem unmarked_append (x y : List Char) : unmarked (x ++ y) = unmarked x ++ unmarked y :=
  List.filter_append x y

theorem unmarked_cons {c : Char} (hc : c ≠ '?') (x : List Char) :
    unmarked (c :: x) = c :: unmarked x :=
  List.filter_cons_of_pos (decide_eq_true hc)

theorem unmarked_eq_self {x : List Char} (h : ∀ c ∈ x, c ≠ '?') : unmarked x = x :=
  List.filter_eq_self.mpr fun c hc => decide_eq_true (h c hc)

theorem Blank.unmarked_eq {a : List Char} (ha : Blank a) : unmarked a = a := by
  apply unmarked_eq_self
  rintro c hc rfl
  exact absurd (ha '?' hc) (by decide)

theorem IsName.unmarked_eq {x : List Char} (hx : IsName x) : unmarked x = x := by
  cases hx with
  | wildcard => rfl
  | letters _ hx =>
    apply unmarked_eq_self
    rintro c hc rfl
    exact absurd (hx '?' hc) (by decide)

theorem Head.unmarked_eq {x : List Char} {name : String} (hx : Head x name) : unmarked x = x := by
  obtain ⟨hb, hx, ha⟩ := hx
  rw [unmarked_append, unmarked_append, hb.unmarked_eq, hx.unmarked_eq, ha.unmarked_eq]

theorem Mark.blank_unmarked {z : List Char} {nullable : Bool} (hz : Mark z nullable) :
    Blank (unmarked z) := by
  cases hz with
  | absent => nofun
  | @present a ha =>
    have hdrop : unmarked ('?' :: a) = unmarked a := List.filter_cons_of_neg (by decide)
    rwa [hdrop, ha.unmarked_eq]

/-- Without a question mark, what stood behind it belongs to the token before. -/
theorem Derives.of_blank {x y a : List Char} {name : String} {arguments : List TypeRef}
    (hx : Head x name) (hy : DerivesArguments y arguments) (ha : Blank a) :
    Derives (x ++ (y ++ a)) { name, arguments } := by
  cases hy with
  | none =>
    have hderives := Derives.type (hx.append_blank ha) .none .absent
    simpa using hderives
  | some hlist hb =>
    have hderives := Derives.type hx (.some hlist (hb.append ha)) .absent
    simpa using hderives

mutual

/-- Without its question marks a text derives the type with nullability erased. -/
theorem Derives.unmarked {x : List Char} {type : TypeRef} :
    (h : Derives x type) → Derives (unmarked x) type.erase
  | .type hx hy hz => by
    rw [unmarked_append, unmarked_append, hx.unmarked_eq]
    exact .of_blank hx hy.unmarked hz.blank_unmarked

/-- Arguments without question marks are the arguments with nullability erased. -/
theorem DerivesArguments.unmarked {y : List Char} {arguments : List TypeRef} :
    (h : DerivesArguments y arguments) → DerivesArguments (unmarked y) (eraseAll arguments)
  | .none => .none
  | .some hx ha => by
    rw [unmarked_cons (by decide), unmarked_append, unmarked_cons (by decide), ha.unmarked_eq]
    exact .some hx.unmarked ha

theorem DerivesList.unmarked {x : List Char} {types : List TypeRef} :
    (h : DerivesList x types) → DerivesList (unmarked x) (eraseAll types)
  | .one hx => .one hx.unmarked
  | .more hx hy => by
    rw [unmarked_append, unmarked_cons (by decide)]
    exact .more hx.unmarked hy.unmarked

end

def withoutMarks (text : String) : String :=
  String.ofList (unmarked text.toList)

/-- Without its question marks a text is read as the type with nullability erased. -/
theorem readPattern_withoutMarks {input : String} {type : TypeRef}
    (h : readPattern input = .ok type) : readPattern (withoutMarks input) = .ok type.erase := by
  obtain ⟨hderives, hnesting⟩ := readPattern_eq_ok_iff.mp h
  apply readPattern_eq_ok_iff.mpr
  rw [withoutMarks, String.toList_ofList, nesting_erase]
  exact ⟨hderives.unmarked, hnesting⟩

end TypeRef

namespace TypePattern

open TypeRef

mutual

/-- A type fits if and only if it can be had by filling in the wildcards. -/
theorem fits_ofType_iff : (tree t : TypeRef) →
    ((ofType tree).fits t = true ↔ ∃ σ, fill σ tree.erase = t.erase)
  | ⟨name, arguments, _⟩, ⟨name', arguments', nullable'⟩ => by
    rw [ofType, TypeRef.erase]
    by_cases hname : name = wildcardName
    · -- the wildcard takes the type itself
      rw [if_pos hname, fits]
      exact iff_of_true rfl ⟨fun _ => erase ⟨name', arguments', nullable'⟩, if_pos hname⟩
    · have harguments := fitsAll_ofTypes_iff 0 arguments arguments'
      have hfill : ∀ σ, fill σ ⟨name, eraseAll arguments, false⟩ =
          ⟨name, fillFrom σ 0 (eraseAll arguments), false⟩ := fun σ => if_neg hname
      simp only [if_neg hname, fits, Bool.and_eq_true, decide_eq_true_eq, harguments, hfill,
        TypeRef.erase, TypeRef.mk.injEq, and_true, exists_and_left]

/-- Lists of types fit if and only if they are as many and can be had by filling in. -/
theorem fitsAll_ofTypes_iff (position : Nat) : (trees ts : List TypeRef) →
    (fitsAll (ofTypes trees) ts = true ↔
      ∃ σ, fillFrom σ position (eraseAll trees) = eraseAll ts)
  | [], [] => iff_of_true rfl ⟨fun _ => default, rfl⟩
  | [], _ :: _ => by simp [ofTypes, fitsAll, eraseAll, fillFrom]
  | _ :: _, [] => by simp [ofTypes, fitsAll, eraseAll, fillFrom]
  | tree :: trees, t :: ts => by
    rw [ofTypes, fitsAll, Bool.and_eq_true, fits_ofType_iff tree t,
      fitsAll_ofTypes_iff (position + 1) trees ts, eraseAll, eraseAll, exists_fillFrom_cons]

end

mutual

/-- A pattern has no nullability. -/
theorem ofType_erase : (tree : TypeRef) → ofType tree.erase = ofType tree
  | ⟨name, arguments, _⟩ => by rw [TypeRef.erase, ofType, ofType, ofTypes_eraseAll arguments]

theorem ofTypes_eraseAll : (trees : List TypeRef) → ofTypes (eraseAll trees) = ofTypes trees
  | [] => rfl
  | tree :: trees => by
    rw [eraseAll, ofTypes, ofTypes, ofType_erase tree, ofTypes_eraseAll trees]

end

theorem read_eq_ok_iff {input : String} {p : TypePattern} :
    read input = .ok p ↔ ∃ tree, readPattern input = .ok tree ∧ ofType tree = p :=
  map_eq_ok_iff

/-- Question marks make no difference to a pattern. -/
theorem read_withoutMarks {input : String} {p : TypePattern} (h : read input = .ok p) :
    read (withoutMarks input) = .ok p := by
  obtain ⟨tree, htree, rfl⟩ := read_eq_ok_iff.mp h
  exact read_eq_ok_iff.mpr ⟨tree.erase, readPattern_withoutMarks htree, ofType_erase tree⟩

/-- A written form is a pattern for the types that are the same up to nullability. -/
theorem exists_read_text {r : TypeRef} (h : r.Representable) :
    ∃ p, read r.text = .ok p ∧ ∀ t, p.fits t = true ↔ r.erase = t.erase := by
  have hread : readPattern r.text = .ok r :=
    readPattern_eq_ok_iff.mpr ⟨h.derives_text, h.nesting_le⟩
  refine ⟨ofType r, read_eq_ok_iff.mpr ⟨r, hread, rfl⟩, fun t => ?_⟩
  have hfill : ∀ σ, fill σ r.erase = r.erase := fun σ =>
    fill_erase_of_hasWildcard σ r h.hasWildcard_eq_false
  simp only [fits_ofType_iff, hfill, exists_const]

/-- The types that fit a pattern are those that come from it by filling in its wildcards, up to
nullability; question marks do not matter, and a pattern without wildcards fits one type only, up to
nullability. -/
theorem read_fits_iff :
    (∀ input p, read input = .ok p → ∃ tree, readPattern input = .ok tree ∧
        ∀ t, p.fits t = true ↔ ∃ σ, fill σ tree.erase = t.erase) ∧
      (∀ input p, read input = .ok p → read (withoutMarks input) = .ok p) ∧
      (∀ input₁ input₂ p₁ p₂ t₁ t₂, read input₁ = .ok p₁ → read input₂ = .ok p₂ →
        withoutMarks input₁ = withoutMarks input₂ → t₁.erase = t₂.erase →
          p₁.fits t₁ = p₂.fits t₂) ∧
      (∀ r : TypeRef, r.Representable →
        ∃ p, read r.text = .ok p ∧ ∀ t, p.fits t = true ↔ r.erase = t.erase) := by
  refine ⟨?_, fun _ _ => read_withoutMarks, ?_, fun _ => exists_read_text⟩
  · intro input p h
    obtain ⟨tree, htree, rfl⟩ := read_eq_ok_iff.mp h
    exact ⟨tree, htree, fits_ofType_iff tree⟩
  · intro input₁ input₂ p₁ p₂ t₁ t₂ h₁ h₂ htext htype
    -- both texts are read as the pattern without question marks
    have hread := read_withoutMarks h₁
    rw [htext, read_withoutMarks h₂] at hread
    cases hread
    obtain ⟨tree, -, rfl⟩ := read_eq_ok_iff.mp h₁
    rw [Bool.eq_iff_iff, fits_ofType_iff, fits_ofType_iff, htype]

end TypePattern

namespace Sample

def shelfPattern : String := "Map<*, List<*<Int>?>>"

def shelfTree : TypeRef :=
  { name := "Map"
    arguments := [{ name := "*" },
      { name := "List", arguments := [⟨"*", [{ name := "Int" }], true⟩] }] }

def shelf : TypeRef :=
  ⟨"Map", [⟨"String", [], true⟩, { name := "List", arguments := [⟨"Box", [], true⟩] }], true⟩

def bareShelf : TypeRef :=
  { name := "Map", arguments := [{ name := "String" }, { name := "List" }] }

open TypeRef TypePattern in
theorem shelf_fits :
    TypePattern.read shelfPattern = .ok (ofType shelfTree) ∧
      (ofType shelfTree).fits shelf = true ∧
      (∃ σ, fill σ shelfTree.erase = shelf.erase) ∧
      (¬∃ σ, fill σ shelfTree.erase = bareShelf.erase) ∧
      TypePattern.read (withoutMarks shelfPattern) = .ok (ofType shelfTree) ∧
      (ofType shelfTree).fits shelf.erase = true ∧
      shelf.Representable ∧
      ∃ p, TypePattern.read shelf.text = .ok p ∧ p.fits shelf.erase = true ∧
        p.fits bareShelf = false := by
  obtain ⟨hfits, hunmarked, hsame, htext⟩ := read_fits_iff
  have htree : readPattern shelfPattern = .ok shelfTree := by decide +kernel
  have hread : TypePattern.read shelfPattern = .ok (ofType shelfTree) :=
    read_eq_ok_iff.mpr ⟨shelfTree, htree, rfl⟩
  have hshelf : (ofType shelfTree).fits shelf = true := by decide +kernel
  have hbare : (ofType shelfTree).fits bareShelf = false := by decide +kernel
  have hrepresentable : shelf.Representable := by decide +kernel
  obtain ⟨tree, htree', hiff⟩ := hfits _ _ hread
  cases htree.symm.trans htree'
  obtain ⟨p, hp, hall⟩ := htext shelf hrepresentable
  refine ⟨hread, hshelf, (hiff shelf).mp hshelf, ?_, hunmarked _ _ hread, ?_, hrepresentable, p, hp,
    (hall _).mpr (by decide +kernel), ?_⟩
  · rw [← hiff, hbare]
    exact Bool.false_ne_true
  · -- the question marks of the type do not matter
    have herased : shelf.erase.erase = shelf.erase := by decide +kernel
    rw [hsame _ _ _ _ _ _ hread hread rfl herased, hshelf]
  · rw [Bool.eq_false_iff, Ne, hall]
    decide +kernel

end Sample

end ObjectMapping
