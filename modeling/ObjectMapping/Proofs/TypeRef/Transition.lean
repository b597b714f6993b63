import ObjectMapping.Proofs.TypeRef.Alphabet

namespace ObjectMapping.TypeRef.Reader

namespace Place

def name? : Place → Option String
  | .name letters => some (String.ofList letters.reverse)
  | .named n => some n
  | _ => none

def bare? : Place → Option TypeRef
  | .applied type => some type
  | place => place.name?.map fun n => { name := n }

def type? : Place → Option TypeRef
  | .complete type => some type
  | place => place.bare?

def settle : Place → Place
  | .name letters => .named (String.ofList letters.reverse)
  | place => place

@[simp]
theorem name?_settle (p : Place) : p.settle.name? = p.name? := by
  cases p <;> rfl

@[simp]
theorem bare?_settle (p : Place) : p.settle.bare? = p.bare? := by
  cases p <;> rfl

@[simp]
theorem type?_settle (p : Place) : p.settle.type? = p.type? := by
  cases p <;> rfl

theorem bare?_of_name? {p : Place} {n : String} (hp : p.name? = some n) :
    p.bare? = some { name := n } := by
  cases p <;> simp_all [name?, bare?]

theorem type?_of_bare? {p : Place} {type : TypeRef} (hp : p.bare? = some type) :
    p.type? = some type := by
  cases p <;> simp_all [bare?, type?, name?]

end Place

inductive Step (limit : Nat) : State → Char → State → Prop where
  | blank {p : Place} {fs : List Frame} {c : Char} (hc : Text.isBlank c = true) :
      Step limit ⟨p, fs⟩ c ⟨p.settle, fs⟩
  | wildcard {fs : List Frame} : Step limit ⟨.start, fs⟩ '*' ⟨.named wildcardName, fs⟩
  | first {fs : List Frame} {c : Char} (hc : isNameChar c = true) :
      Step limit ⟨.start, fs⟩ c ⟨.name [c], fs⟩
  | letter {letters : List Char} {fs : List Frame} {c : Char} (hc : isNameChar c = true) :
      Step limit ⟨.name letters, fs⟩ c ⟨.name (c :: letters), fs⟩
  | opening {p : Place} {fs : List Frame} {name : String} (hp : p.name? = some name)
      (hfs : fs.length < limit) : Step limit ⟨p, fs⟩ '<' ⟨.start, ⟨name, []⟩ :: fs⟩
  | mark {p : Place} {fs : List Frame} {type : TypeRef} (hp : p.bare? = some type) :
      Step limit ⟨p, fs⟩ '?' ⟨.complete type.toNullable, fs⟩
  | comma {p : Place} {f : Frame} {fs : List Frame} {type : TypeRef} (hp : p.type? = some type) :
      Step limit ⟨p, f :: fs⟩ ',' ⟨.start, ⟨f.name, type :: f.done⟩ :: fs⟩
  | closing {p : Place} {f : Frame} {fs : List Frame} {type : TypeRef} (hp : p.type? = some type) :
      Step limit ⟨p, f :: fs⟩ '>'
        ⟨.applied { name := f.name, arguments := (type :: f.done).reverse }, fs⟩

/-! ### One character -/

variable {limit : Nat} {p : Place} {fs : List Frame} {c : Char} {s s' : State} {name : String}
  {type : TypeRef}

theorem Step.of_afterType (hp : p.type? = some type) (hc : Text.isBlank c = false)
    (h : afterType type fs c = .ok s) : Step limit ⟨p, fs⟩ c s := by
  simp only [afterType, hc, Bool.false_eq_true, if_false] at h
  split at h
  · cases h
    exact .comma hp
  · cases h
    exact .closing hp
  · cases h

theorem Step.of_afterArguments (hp : p.bare? = some type) (hc : Text.isBlank c = false)
    (h : afterArguments type fs c = .ok s) : Step limit ⟨p, fs⟩ c s := by
  simp only [afterArguments, hc, Bool.false_eq_true, if_false] at h
  split at h
  · subst c
    cases h
    exact .mark hp
  · exact .of_afterType (Place.type?_of_bare? hp) hc h

theorem Step.of_afterName (hp : p.name? = some name) (hc : Text.isBlank c = false)
    (h : afterName name fs c = .ok s) : Step maxNesting ⟨p, fs⟩ c s := by
  simp only [afterName, hc, Bool.false_eq_true, if_false] at h
  split at h
  · subst c
    split at h
    · rename_i hfs
      cases h
      exact .opening hp hfs
    · cases h
  · exact .of_afterArguments (Place.bare?_of_name? hp) hc h

/-- Behind a blank the place is settled, whatever it was. -/
theorem step_of_isBlank (hc : Text.isBlank c = true) :
    State.step ⟨p, fs⟩ c = .ok ⟨p.settle, fs⟩ := by
  have hname := isNameChar_eq_false_of_isBlank hc
  cases p <;>
    simp [State.step, Place.settle, afterName, afterArguments, afterType, hc, hname]

theorem Step.of_step (h : s.step c = .ok s') : Step maxNesting s c s' := by
  obtain ⟨p, fs⟩ := s
  cases hc : Text.isBlank c with
  | true =>
    rw [step_of_isBlank hc] at h
    cases h
    exact .blank hc
  | false =>
    cases p with
    | start =>
      simp only [State.step, hc, Bool.false_eq_true, if_false] at h
      split at h
      · subst c
        cases h
        exact .wildcard
      split at h
      · rename_i hname
        cases h
        exact .first hname
      · cases h
    -- another letter goes on with the name, and any other character comes behind a complete one
    | name letters =>
      simp only [State.step] at h
      split at h
      · rename_i hname
        cases h
        exact .letter hname
      · exact .of_afterName rfl hc h
    | named name => exact .of_afterName rfl hc h
    | applied type => exact .of_afterArguments rfl hc h
    | complete type => exact .of_afterType rfl hc h

/-! A character of neither a name nor a blank is taken by what the place holds. -/

theorem step_of_name? (hp : p.name? = some name) (hc : isNameChar c = false) :
    State.step ⟨p, fs⟩ c = afterName name fs c := by
  cases p with
  | start | applied | complete => cases hp
  | name letters =>
    cases hp
    simp [State.step, hc]
  | named n =>
    cases hp
    rfl

theorem step_of_bare? (hp : p.bare? = some type) (hc : isNameChar c = false)
    (hb : Text.isBlank c = false) (hopen : c ≠ '<') :
    State.step ⟨p, fs⟩ c = afterArguments type fs c := by
  cases p with
  | start | complete => cases hp
  | name letters | named n =>
    cases hp
    rw [step_of_name? rfl hc]
    simp [afterName, hb, hopen]
  | applied t =>
    cases hp
    rfl

theorem step_of_type? (hp : p.type? = some type) (hc : isNameChar c = false)
    (hb : Text.isBlank c = false) (hopen : c ≠ '<') (hmark : c ≠ '?') :
    State.step ⟨p, fs⟩ c = afterType type fs c := by
  cases p with
  | start => cases hp
  | name letters | named n | applied t =>
    cases hp
    rw [step_of_bare? rfl hc hb hopen]
    simp [afterArguments, hb, hmark]
  | complete t =>
    cases hp
    rfl

theorem Step.step_eq (h : Step maxNesting s c s') : s.step c = .ok s' := by
  cases h with
  | blank hc => exact step_of_isBlank hc
  | wildcard => rfl
  | first hc =>
    have hb := isBlank_eq_false_of_isNameChar hc
    have hstar : c ≠ '*' := by
      rintro rfl
      exact absurd hc (by decide)
    simp [State.step, hc, hb, hstar]
  | letter hc => simp [State.step, hc]
  | opening hp hfs =>
    rw [step_of_name? hp (by decide), afterName, if_neg (by decide), if_pos rfl, if_pos hfs]
  | mark hp =>
    rw [step_of_bare? hp (by decide) (by decide) (by decide), afterArguments, if_neg (by decide),
      if_pos rfl]
  | comma hp => exact step_of_type? hp (by decide) (by decide) (by decide) (by decide)
  | closing hp => exact step_of_type? hp (by decide) (by decide) (by decide) (by decide)

/-- The reader takes a character exactly as the steps say. -/
theorem step_eq_ok_iff : s.step c = .ok s' ↔ Step maxNesting s c s' :=
  ⟨.of_step, Step.step_eq⟩

/-- The character and the place leave no choice. -/
theorem Step.unique {s₁ s₂ : State} (h₁ : Step limit s c s₁) (h₂ : Step limit s c s₂) :
    s₁ = s₂ := by
  cases h₁ <;> cases h₂
  -- two steps of different kinds would put one character into two classes
  all_goals simp_all [isNameChar_eq_false_of_isBlank]

/-! ### Many characters -/

inductive Reads (limit : Nat) : State → List Char → State → Prop where
  | nil {s : State} : Reads limit s [] s
  | cons {s s₁ s' : State} {c : Char} {x : List Char} (hc : Step limit s c s₁)
      (hx : Reads limit s₁ x s') : Reads limit s (c :: x) s'

variable {x y : List Char}

theorem Reads.append {s₁ : State} (hx : Reads limit s x s₁)
    (hy : Reads limit s₁ y s') : Reads limit s (x ++ y) s' := by
  induction hx with
  | nil => exact hy
  | cons hc _ ih => exact .cons hc (ih hy)

/-- A text leads to one state only. -/
theorem Reads.unique {s₁ s₂ : State} (h₁ : Reads limit s x s₁)
    (h₂ : Reads limit s x s₂) : s₁ = s₂ := by
  induction h₁ with
  | nil =>
    cases h₂
    rfl
  | cons hc _ ih =>
    cases h₂ with
    | cons hc' hx' =>
      cases hc.unique hc'
      exact ih hx'

/-- A text may end where no type is open and one may end. -/
theorem finish?_eq_some_iff :
    s.finish? = some type ↔ s.frames = [] ∧ s.place.type? = some type := by
  obtain ⟨p, fs⟩ := s
  cases p <;> cases fs <;> simp [State.finish?, Place.type?, Place.bare?, Place.name?]

/-- A run succeeds with the type that may end where the text ends, with no type left open. -/
theorem run_eq_ok_iff {input : String} {offset : Nat} :
    s.run input offset x = .ok type ↔
      ∃ p, Reads maxNesting s x ⟨p, []⟩ ∧ p.type? = some type := by
  induction x generalizing offset s with
  | nil =>
    have hrun : s.run input offset [] = .ok type ↔ s.finish? = some type := by
      unfold State.run
      split <;> simp_all
    rw [hrun, finish?_eq_some_iff]
    constructor
    · rintro ⟨hframes, htype⟩
      refine ⟨s.place, ?_, htype⟩
      rw [← hframes]
      exact .nil
    · rintro ⟨p, hp, htype⟩
      cases hp
      exact ⟨rfl, htype⟩
  | cons c x ih =>
    constructor
    · intro h
      unfold State.run at h
      split at h
      · rename_i next hc
        obtain ⟨p, hp, htype⟩ := ih.1 h
        exact ⟨p, .cons (step_eq_ok_iff.1 hc) hp, htype⟩
      · cases h
      · cases h
    · rintro ⟨p, hp, htype⟩
      cases hp with
      | cons hc hx =>
        unfold State.run
        rw [step_eq_ok_iff.2 hc]
        exact ih.2 ⟨p, hx, htype⟩

end ObjectMapping.TypeRef.Reader
