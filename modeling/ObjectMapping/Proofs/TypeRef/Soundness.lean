import ObjectMapping.Proofs.TypeRef.Grammar
import ObjectMapping.Proofs.TypeRef.Transition

/-!
Whatever is read is derived by the grammar. The text behind the reader is divided by the types that
are open: up to each opening bracket stands a name and behind it the arguments done so far, and the
rest belongs to the innermost type. Every step keeps this, and keeps the types within the limit.
-/

namespace ObjectMapping.TypeRef

open Reader

theorem Head.append_blank {x a : List Char} {name : String} (hx : Head x name) (ha : Blank a) :
    Head (x ++ a) name := by
  obtain ⟨hb, hx, ha'⟩ := hx
  rw [List.append_assoc, List.append_assoc]
  exact .intro hb hx (ha'.append ha)

namespace Reader

/-! ### The text of a place -/

inductive Placed : List Char → Place → Prop where
  | start {b : List Char} (hb : Blank b) : Placed b .start
  | name {b letters : List Char} (hb : Blank b) (hne : letters ≠ [])
      (hletters : ∀ c ∈ letters, isNameChar c = true) :
      Placed (b ++ letters.reverse) (.name letters)
  | named {x : List Char} {name : String} (hx : Head x name) : Placed x (.named name)
  | applied {x y a : List Char} {name : String} {arguments : List TypeRef} (hx : Head x name)
      (hy : DerivesList y arguments) (ha : Blank a) :
      Placed (x ++ '<' :: (y ++ '>' :: a)) (.applied { name, arguments })
  | complete {x y a : List Char} {name : String} {arguments : List TypeRef} (hx : Head x name)
      (hy : DerivesArguments y arguments) (ha : Blank a) :
      Placed (x ++ (y ++ '?' :: a)) (.complete ⟨name, arguments, true⟩)

variable {x y : List Char} {p : Place} {name : String} {type : TypeRef}

theorem Placed.head (h : Placed x p) (hp : p.name? = some name) : Head x name := by
  cases h with
  | start | applied | complete => cases hp
  | name hb hne hletters =>
    cases hp
    have hx : IsName (List.reverse _) := .letters (List.reverse_ne_nil_iff.2 hne)
      fun c hc => hletters c (List.mem_reverse.1 hc)
    have hhead := Head.intro hb hx (a := []) nofun
    rwa [List.append_nil] at hhead
  | named hx =>
    cases hp
    exact hx

/-- A type that may be marked has its name and its arguments behind it. -/
theorem Placed.bare (h : Placed x p) (hp : p.bare? = some type) :
    ∃ y z, x = y ++ z ∧ Head y type.name ∧ DerivesArguments z type.arguments ∧
      type.nullable = false := by
  cases h with
  | start | complete => cases hp
  | name hb hne hletters =>
    cases hp
    have hx := Placed.head (.name hb hne hletters) rfl
    exact ⟨_, [], (List.append_nil _).symm, hx, .none, rfl⟩
  | named hx =>
    cases hp
    exact ⟨_, [], (List.append_nil _).symm, hx, .none, rfl⟩
  | applied hx hy ha =>
    cases hp
    exact ⟨_, _, rfl, hx, .some hy ha, rfl⟩

/-- Where a type may end, the text before is a text for it. -/
theorem Placed.derives (h : Placed x p) (hp : p.type? = some type) : Derives x type := by
  cases hbare : p.bare? with
  | some bare =>
    have htype : bare = type := Option.some.inj ((Place.type?_of_bare? hbare).symm.trans hp)
    obtain ⟨y, z, rfl, hy, hz, hnullable⟩ := h.bare hbare
    obtain ⟨name, arguments, nullable⟩ := bare
    subst htype hnullable
    have hderives := Derives.type hy hz .absent
    rwa [List.append_nil] at hderives
  | none =>
    -- only behind a question mark a type may end but not be marked
    cases h with
    | start => cases hp
    | name | named | applied => cases hbare
    | complete hx hy ha =>
      cases hp
      exact .type hx hy (.present ha)

/-- A blank belongs to the token before it. -/
theorem Placed.blank {c : Char} (h : Placed x p) (hc : Text.isBlank c = true) :
    Placed (x ++ [c]) p.settle := by
  have hblank := Blank.singleton hc
  cases h with
  | start hb => exact .start (hb.append hblank)
  | name hb hne hletters =>
    have hx := Placed.head (.name hb hne hletters) rfl
    exact .named (hx.append_blank hblank)
  | named hx => exact .named (hx.append_blank hblank)
  | applied hx hy ha =>
    have happlied := Placed.applied hx hy (ha.append hblank)
    simpa [Place.settle] using happlied
  | complete hx hy ha =>
    have hcomplete := Placed.complete hx hy (ha.append hblank)
    simpa [Place.settle] using hcomplete

/-! ### The text of the open types -/

/-- What may stand behind an opening bracket up to the argument that is open, with the arguments
done so far, the latest first. -/
inductive Opened : List Char → List TypeRef → Prop where
  | nil : Opened [] []
  | comma {x : List Char} {done : List TypeRef} (hx : DerivesList x done.reverse) :
      Opened (x ++ [',']) done

inductive Framed : List Char → List Frame → Prop where
  | nil : Framed [] []
  | cons {x y z : List Char} {fs : List Frame} {name : String} {done : List TypeRef}
      (hx : Framed x fs) (hy : Head y name) (hz : Opened z done) :
      Framed (x ++ (y ++ '<' :: z)) (⟨name, done⟩ :: fs)

/-- The argument that is open completes the list. -/
theorem Opened.derivesList {done : List TypeRef} (hx : Opened x done) (hy : Derives y type) :
    DerivesList (x ++ y) (type :: done).reverse := by
  cases hx with
  | nil => exact .one hy
  | comma hx =>
    rw [List.reverse_cons, List.append_assoc]
    exact hx.snoc hy

inductive Reached : List Char → State → Prop where
  | intro {x y : List Char} {p : Place} {fs : List Frame} (hx : Framed x fs) (hy : Placed y p) :
      Reached (x ++ y) ⟨p, fs⟩

variable {limit : Nat} {c : Char} {s s' : State}

theorem Reached.initial : Reached [] .initial :=
  .intro .nil (.start nofun)

/-- Each character adds to what the state has to say of the text. -/
theorem Reached.step (h : Reached x s) (hc : Step limit s c s') : Reached (x ++ [c]) s' := by
  obtain ⟨hx, hy⟩ := h
  rw [List.append_assoc]
  cases hc with
  | blank hc => exact .intro hx (hy.blank hc)
  | wildcard =>
    cases hy with
    | start hb => exact .intro hx (.named (.intro hb .wildcard nofun))
  | first hc =>
    cases hy with
    | start hb =>
      have hname := Placed.name hb (List.cons_ne_nil _ []) (List.forall_mem_singleton.2 hc)
      exact .intro hx hname
  | letter hc =>
    cases hy with
    | name hb hne hletters =>
      have hall : ∀ d ∈ _ :: _, isNameChar d = true := List.forall_mem_cons.2 ⟨hc, hletters⟩
      have hname := Placed.name hb (List.cons_ne_nil _ _) hall
      rw [List.append_assoc, ← List.reverse_cons]
      exact .intro hx hname
  -- what was read since the last frame is a name, and opens a frame of its own
  | opening hp hfs =>
    have hframe := Framed.cons hx (hy.head hp) .nil
    have hstart := Reached.intro hframe (.start (b := []) nofun)
    simpa using hstart
  | mark hp =>
    obtain ⟨y, z, rfl, hhead, harguments, -⟩ := hy.bare hp
    have hcomplete := Placed.complete hhead harguments (a := []) nofun
    rw [List.append_assoc]
    exact .intro hx hcomplete
  -- the type read last goes into the frame around it, behind the arguments that are there
  | comma hp =>
    cases hx with
    | cons hx hhead hz =>
      have hlist := hz.derivesList (hy.derives hp)
      have hframe := Framed.cons hx hhead (.comma hlist)
      have hstart := Reached.intro hframe (.start (b := []) nofun)
      simpa using hstart
  | closing hp =>
    cases hx with
    | cons hx hhead hz =>
      have hlist := hz.derivesList (hy.derives hp)
      have happlied := Reached.intro hx (.applied hhead hlist (a := []) nofun)
      simpa using happlied

theorem Reached.reads (h : Reached x s) (hy : Reads limit s y s') : Reached (x ++ y) s' := by
  induction hy generalizing x with
  | nil => rwa [List.append_nil]
  | cons hc _ ih =>
    rw [List.append_cons]
    exact ih (h.step hc)

/-! ### The levels -/

/-- No type that is open or complete reaches beyond the limit. -/
structure Within (limit : Nat) (s : State) : Prop where
  length_le : s.frames.length ≤ limit
  place : ∀ type, s.place.type? = some type → s.frames.length + type.nesting ≤ limit
  frames : ∀ f outer, f :: outer <:+ s.frames →
    ∀ type ∈ f.done, outer.length + 1 + type.nesting ≤ limit

theorem Within.initial : Within limit .initial where
  length_le := Nat.zero_le limit
  place := nofun
  frames f outer h := by
    cases List.suffix_nil.1 h

/-- No character leads beyond the limit. -/
theorem Within.step (h : Within limit s) (hc : Step limit s c s') : Within limit s' := by
  obtain ⟨hlength, hplace, hframes⟩ := h
  cases hc with
  | blank hc => exact ⟨hlength, by simpa using hplace, hframes⟩
  | wildcard | first hc | letter hc =>
    -- a name has no levels yet
    refine ⟨hlength, ?_, hframes⟩
    rintro type ⟨⟩
    exact hlength
  | opening hp hfs =>
    refine ⟨hfs, nofun, ?_⟩
    intro f outer hf
    rcases List.suffix_cons_iff.1 hf with heq | hf
    · cases heq
      nofun
    · exact hframes f outer hf
  | mark hp =>
    refine ⟨hlength, ?_, hframes⟩
    rintro type ⟨⟩
    rw [nesting_toNullable]
    exact hplace _ (Place.type?_of_bare? hp)
  | comma hp =>
    refine ⟨hlength, nofun, ?_⟩
    intro f outer hf
    rcases List.suffix_cons_iff.1 hf with heq | hf
    · cases heq
      exact List.forall_mem_cons.2 ⟨hplace _ hp, hframes _ _ List.suffix_rfl⟩
    · exact hframes f outer (hf.trans (List.suffix_cons _ _))
  | closing hp =>
    have houter := Nat.le_of_succ_le hlength
    refine ⟨houter, ?_, ?_⟩
    · rintro type ⟨⟩
      apply add_nestingOf_le_iff.2
      refine ⟨houter, fun t ht => ?_⟩
      rcases List.mem_cons.1 (List.mem_reverse.1 ht) with rfl | ht
      · exact hplace _ hp
      · exact hframes _ _ List.suffix_rfl t ht
    · intro f outer hf
      exact hframes f outer (hf.trans (List.suffix_cons _ _))

theorem Within.reads (h : Within limit s) (hx : Reads limit s x s') : Within limit s' := by
  induction hx with
  | nil => exact h
  | cons hc _ ih => exact ih (h.step hc)

/-- Where no type is open, the text is a type of few enough levels. -/
theorem Reads.derives (hx : Reads limit .initial x ⟨p, []⟩) (hp : p.type? = some type) :
    Derives x type ∧ type.nesting ≤ limit := by
  have hreached : Reached x ⟨p, []⟩ := Reached.initial.reads hx
  have hwithin : Within limit ⟨p, []⟩ := Within.initial.reads hx
  refine ⟨?_, by simpa using hwithin.place type hp⟩
  obtain ⟨hframes, hplace⟩ := hreached
  cases hframes
  exact hplace.derives hp

end Reader

end ObjectMapping.TypeRef
