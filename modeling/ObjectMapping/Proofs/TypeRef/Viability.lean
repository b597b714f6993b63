import ObjectMapping.Proofs.TypeRef.Recognition

/-!
Where reading fails. From any state a text can be completed, by a type where one has to begin and a
closing bracket for each type that is open. So whatever the reader has gone through can be continued
to a type, and it stops at the first character behind which no text is a type any more.
-/

namespace ObjectMapping

namespace TypeRef

open Reader

def Viable (text : String) : Prop :=
  ∃ rest type, readPattern (text ++ rest) = .ok type

namespace Reader

variable {limit : Nat} {p : Place} {fs : List Frame} {c : Char} {s s' : State} {x y : List Char}
  {type : TypeRef}

/-! ### Completing a text -/

theorem reads_append_iff :
    Reads limit s (x ++ y) s' ↔ ∃ s₁, Reads limit s x s₁ ∧ Reads limit s₁ y s' := by
  constructor
  · intro h
    induction x generalizing s with
    | nil => exact ⟨s, .nil, h⟩
    | cons c x ih =>
      cases h with
      | cons hc hrest =>
        obtain ⟨s₁, hx, hy⟩ := ih hrest
        exact ⟨s₁, .cons hc hx, hy⟩
  · rintro ⟨s₁, hx, hy⟩
    exact hx.append hy

/-- Where a type has to begin, one letter is a type. -/
theorem exists_reads_type (limit : Nat) (p : Place) (fs : List Frame) :
    ∃ y q type, Reads limit ⟨p, fs⟩ y ⟨q, fs⟩ ∧ q.type? = some type := by
  cases p with
  | start =>
    have hletter : isNameChar 'a' = true := by decide +kernel
    exact ⟨['a'], .name ['a'], { name := "a" }, .cons (.first hletter) .nil, rfl⟩
  | name | named | applied | complete => exact ⟨[], _, _, .nil, rfl⟩

/-- Closing brackets complete the open types from the innermost on. -/
theorem exists_reads_closing (limit : Nat) (fs : List Frame) (hp : p.type? = some type) :
    ∃ y q outermost, Reads limit ⟨p, fs⟩ y ⟨q, []⟩ ∧ q.type? = some outermost := by
  induction fs generalizing p type with
  | nil => exact ⟨[], p, type, .nil, hp⟩
  | cons f fs ih =>
    let closed : TypeRef := { name := f.name, arguments := (type :: f.done).reverse }
    have happlied : (Place.applied closed).type? = some closed := rfl
    obtain ⟨y, q, outermost, hy, hq⟩ := ih happlied
    exact ⟨'>' :: y, q, outermost, .cons (.closing hp) hy, hq⟩

/-- From every state some text completes a type. -/
theorem State.exists_completion (limit : Nat) (s : State) :
    ∃ y q type, Reads limit s y ⟨q, []⟩ ∧ q.type? = some type := by
  obtain ⟨x, p, type, hx, hp⟩ := exists_reads_type limit s.place s.frames
  obtain ⟨y, q, outermost, hy, hq⟩ := exists_reads_closing limit s.frames hp
  exact ⟨x ++ y, q, outermost, hx.append hy, hq⟩

/-! ### Brackets -/

/-- A class of characters without brackets adds to neither count. -/
theorem count_bracket_of_class (f : Char → Bool) (hopen : f '<' = false) (hclose : f '>' = false)
    (hc : f c = true) : [c].count '<' = [c].count '>' := by
  have hne : ∀ d, f d = false → c ≠ d := by
    rintro d hd rfl
    rw [hc] at hd
    cases hd
  simp [hne '<' hopen, hne '>' hclose]

/-- A step opens a type at an opening bracket, closes one at a closing bracket, and else leaves as
many open as there were. -/
theorem Step.length_frames (h : Step limit s c s') :
    s.frames.length + [c].count '<' = s'.frames.length + [c].count '>' := by
  cases h with
  | @blank p fs _ hc =>
    have hcount := count_bracket_of_class Text.isBlank (by decide) (by decide) hc
    exact congrArg (fs.length + ·) hcount
  | @first fs _ hc | @letter _ fs _ hc =>
    have hcount := count_bracket_of_class isNameChar (by decide) (by decide) hc
    exact congrArg (fs.length + ·) hcount
  | wildcard | opening | mark | comma | closing => rfl

/-- As many types are open as opening brackets have no closing bracket yet. -/
theorem Reads.length_frames (h : Reads limit s x s') :
    s.frames.length + x.count '<' = s'.frames.length + x.count '>' := by
  induction h with
  | nil => rfl
  | @cons s s₁ s' c x hc _ ih =>
    have hstep := hc.length_frames
    rw [← List.singleton_append, List.count_append, List.count_append]
    omega

/-! ### Refusals -/

/-- The error that a refusal gives at the given place of a text. -/
def Refusal.toError (c : Char) (offset : Nat) (input : String) : Refusal → ReadError
  | .unexpected => .unexpected c offset input
  | .tooDeep => .tooDeep input

/-- A refused character leads nowhere. -/
theorem not_step_of_refused {r : Refusal} (h : s.step c = .error r) : ¬Step maxNesting s c s' := by
  intro hstep
  rw [hstep.step_eq] at h
  cases h

theorem afterType_ne_tooDeep : afterType type fs c ≠ .error .tooDeep := by
  unfold afterType
  split
  · nofun
  split <;> nofun

theorem afterArguments_ne_tooDeep : afterArguments type fs c ≠ .error .tooDeep := by
  unfold afterArguments
  split
  · nofun
  split
  · nofun
  · exact afterType_ne_tooDeep

theorem of_afterName_eq_tooDeep {name : String} (h : afterName name fs c = .error .tooDeep) :
    c = '<' ∧ maxNesting ≤ fs.length := by
  unfold afterName at h
  split at h
  · cases h
  split at h
  · rename_i hopen
    split at h
    · cases h
    · rename_i hfull
      exact ⟨hopen, Nat.not_lt.mp hfull⟩
  · exact absurd h afterArguments_ne_tooDeep

/-- Too deep is only an opening bracket where as many types are open as may be. -/
theorem of_step_eq_tooDeep (h : s.step c = .error .tooDeep) :
    c = '<' ∧ maxNesting ≤ s.frames.length := by
  obtain ⟨p, fs⟩ := s
  unfold State.step at h
  cases p with
  | start =>
    simp only at h
    split at h
    · cases h
    split at h
    · cases h
    split at h <;> cases h
  | name letters =>
    simp only at h
    split at h
    · cases h
    · exact of_afterName_eq_tooDeep h
  | named name => exact of_afterName_eq_tooDeep h
  | applied type => exact absurd h afterArguments_ne_tooDeep
  | complete type => exact absurd h afterType_ne_tooDeep

/-- A run fails at a character that is refused, or at the end. -/
theorem run_eq_error {input : String} {offset : Nat} {e : ReadError}
    (h : s.run input offset x = .error e) :
    (∃ before c after s₁ r, x = before ++ c :: after ∧ Reads maxNesting s before s₁ ∧
        s₁.step c = .error r ∧
        e = r.toError c (offset + (String.ofList before).utf8ByteSize) input) ∨
      (∃ s₁, Reads maxNesting s x s₁) ∧ e = .unexpectedEnd input := by
  induction x generalizing s offset with
  | nil =>
    unfold State.run at h
    split at h
    · cases h
    · cases h
      exact .inr ⟨⟨s, .nil⟩, rfl⟩
  | cons c x ih =>
    unfold State.run at h
    split at h
    · rename_i next hc
      have hstep : Step maxNesting s c next := .of_step hc
      rcases ih h with ⟨before, d, after, s₁, r, rfl, hbefore, hd, rfl⟩ | ⟨⟨s₁, hx⟩, rfl⟩
      · refine .inl ⟨c :: before, d, after, s₁, r, rfl, .cons hstep hbefore, hd, ?_⟩
        rw [String.ofList_cons, String.utf8ByteSize_append, String.utf8ByteSize_singleton,
          Nat.add_assoc]
      · exact .inr ⟨⟨s₁, .cons hstep hx⟩, rfl⟩
    -- what is refused is the first character
    all_goals
      rename_i hc
      cases h
      exact .inl ⟨[], c, x, s, _, rfl, .nil, hc, rfl⟩

end Reader

/-! ### The first possible place -/

/-- A text is viable exactly if the reader takes all of it. -/
theorem viable_iff {text : String} :
    Viable text ↔ ∃ s, Reads maxNesting .initial text.toList s := by
  have hread : ∀ {rest type}, readPattern (text ++ rest) = .ok type ↔
      ∃ p, Reads maxNesting .initial (text.toList ++ rest.toList) ⟨p, []⟩ ∧
        p.type? = some type := by
    intro rest type
    rw [readPattern_eq_ok_iff, ← reads_iff_derives, String.toList_append]
  constructor
  · rintro ⟨rest, type, h⟩
    obtain ⟨p, hp, -⟩ := hread.mp h
    obtain ⟨s, hs, -⟩ := reads_append_iff.mp hp
    exact ⟨s, hs⟩
  · rintro ⟨s, hs⟩
    obtain ⟨y, q, type, hy, hq⟩ := s.exists_completion maxNesting
    refine ⟨String.ofList y, type, hread.mpr ⟨q, ?_, hq⟩⟩
    rw [String.toList_ofList]
    exact hs.append hy

/-- A prefix of a text that the reader has gone through is viable. -/
theorem viable_of_front {before text : String} {s : State}
    (hs : Reads maxNesting .initial text.toList s) (hfront : before.toList <+: text.toList) :
    Viable before := by
  obtain ⟨y, hy⟩ := hfront
  rw [← hy] at hs
  obtain ⟨s₁, hs₁, -⟩ := reads_append_iff.mp hs
  exact viable_iff.mpr ⟨s₁, hs₁⟩

/-- A text is not viable from the character on that is refused. -/
theorem not_viable_push {before : String} {c : Char} {s : State} {r : Refusal}
    (hs : Reads maxNesting .initial before.toList s) (hr : s.step c = .error r) :
    ¬Viable (before.push c) := by
  rw [viable_iff, String.toList_push]
  rintro ⟨s', hs'⟩
  obtain ⟨s₁, hs₁, hc⟩ := reads_append_iff.mp hs'
  cases hs₁.unique hs
  cases hc with
  | cons hc _ => exact not_step_of_refused hr hc

/-- How a text fails to be a type, with the error that tells it. -/
inductive Fails (input : String) : ReadError → Prop where
  | blank (hblank : ∀ c ∈ input.toList, Text.isBlank c = true) : Fails input .empty
  | ended {s : State} (hs : Reads maxNesting .initial input.toList s) :
      Fails input (.unexpectedEnd input)
  | unexpected {before after : String} {c : Char} {s : State}
      (hinput : input = before.push c ++ after) (hs : Reads maxNesting .initial before.toList s)
      (hc : s.step c = .error .unexpected) : Fails input (.unexpected c before.utf8ByteSize input)
  | tooDeep {before after : String} {c : Char} {s : State}
      (hinput : input = before.push c ++ after) (hs : Reads maxNesting .initial before.toList s)
      (hc : s.step c = .error .tooDeep) : Fails input (.tooDeep input)

/-- Every error of the reader tells how the text fails. -/
theorem fails_of_readPattern {input : String} {e : ReadError} (h : readPattern input = .error e) :
    Fails input e := by
  unfold readPattern at h
  split at h
  · rename_i hblank
    cases h
    exact .blank (List.all_eq_true.mp hblank)
  rcases run_eq_error h with ⟨before, c, after, s, r, hinput, hs, hr, rfl⟩ | ⟨⟨s, hs⟩, rfl⟩
  · have htext : input = (String.ofList before).push c ++ String.ofList after := by
      rw [← String.toList_inj, hinput]
      simp
    have hbefore : Reads maxNesting .initial (String.ofList before).toList s := by
      rwa [String.toList_ofList]
    rw [Nat.zero_add]
    cases r with
    | unexpected => exact .unexpected htext hbefore hr
    | tooDeep => exact .tooDeep htext hbefore hr
  · exact .ended hs

/-- Where as many types are open as may be, the bracket that opens one more is the 33rd without a
closing bracket. -/
theorem count_of_tooDeep {before : String} {c : Char} {s : State}
    (hs : Reads maxNesting .initial before.toList s) (hc : s.step c = .error .tooDeep) :
    (before.push c).toList.count '<' = (before.push c).toList.count '>' + 33 := by
  obtain ⟨rfl, hfull⟩ := of_step_eq_tooDeep hc
  have hlength : s.frames.length = 32 :=
    Nat.le_antisymm (Within.initial.reads hs).length_le hfull
  have hcount := hs.length_frames
  rw [hlength, State.initial, List.length_nil, Nat.zero_add] at hcount
  rw [String.toList_push, List.count_append, List.count_append, hcount]
  show 32 + before.toList.count '>' + 1 = before.toList.count '>' + 0 + 33
  omega

/-- An error points at the first place where the text cannot go on to be a type. -/
theorem readPattern_error_place (input : String) :
    (∀ c offset text, readPattern input = .error (.unexpected c offset text) →
        text = input ∧ ∃ before after, input = before.push c ++ after ∧
          offset = before.utf8ByteSize ∧ Viable before ∧ ¬Viable (before.push c)) ∧
      (∀ text, readPattern input = .error (.unexpectedEnd text) →
        text = input ∧ (∀ type, readPattern input ≠ .ok type) ∧ Viable input) ∧
      (∀ text, readPattern input = .error (.tooDeep text) →
        text = input ∧ ∃ opening after, input = opening ++ after ∧
          opening.toList.count '<' = opening.toList.count '>' + 33 ∧
          (∀ before : String, before.toList <+: opening.toList → before ≠ opening →
            Viable before) ∧
          ¬Viable opening) ∧
      (readPattern input = .error .empty ↔ ∀ c ∈ input.toList, Text.isBlank c = true) := by
  refine ⟨?_, ?_, ?_, ?_⟩
  · intro c offset text h
    cases fails_of_readPattern h with
    | unexpected hinput hs hc =>
      exact ⟨rfl, _, _, hinput, rfl, viable_iff.mpr ⟨_, hs⟩, not_viable_push hs hc⟩
  · intro text h
    cases fails_of_readPattern h with
    | ended hs =>
      refine ⟨rfl, ?_, viable_iff.mpr ⟨_, hs⟩⟩
      intro type htype
      rw [h] at htype
      cases htype
  · intro text h
    cases fails_of_readPattern h with
    | tooDeep hinput hs hc =>
      refine ⟨rfl, _, _, hinput, count_of_tooDeep hs hc, ?_, not_viable_push hs hc⟩
      intro before hfront hne
      rw [String.toList_push] at hfront
      -- the bracket that is too deep is the last character, and all before it has been read
      rcases List.prefix_concat_iff.mp hfront with hall | hshorter
      · rw [← String.toList_push, String.toList_inj] at hall
        exact absurd hall hne
      · exact viable_of_front hs hshorter
  · constructor
    · intro h
      cases fails_of_readPattern h with
      | blank hblank => exact hblank
    · intro hblank
      rw [readPattern, if_pos (List.all_eq_true.mpr hblank)]

end TypeRef

namespace Sample

def sized : String := " Größe<*x>"

open TypeRef in
theorem errors_placed :
    (readPattern sized = .error (.unexpected 'x' 10 sized) ∧
        ∃ before after, sized = before.push 'x' ++ after ∧ 10 = before.utf8ByteSize ∧
          Viable before ∧ ¬Viable (before.push 'x')) ∧
      (readPattern "List<Int" = .error (.unexpectedEnd "List<Int") ∧ Viable "List<Int") ∧
      (readPattern (nested 33) = .error (.tooDeep (nested 33)) ∧
        ∃ opening after, nested 33 = opening ++ after ∧
          opening.toList.count '<' = opening.toList.count '>' + 33 ∧ ¬Viable opening) ∧
      readPattern " \t" = .error .empty := by
  have hsized : readPattern sized = .error (.unexpected 'x' 10 sized) := by decide +kernel
  have hended : readPattern "List<Int" = .error (.unexpectedEnd "List<Int") := by decide +kernel
  have hdeep : readPattern (nested 33) = .error (.tooDeep (nested 33)) := by decide +kernel
  obtain ⟨-, hplace⟩ := (readPattern_error_place sized).1 _ _ _ hsized
  obtain ⟨-, -, hviable⟩ := (readPattern_error_place "List<Int").2.1 _ hended
  obtain ⟨-, opening, after, hinput, hcount, -, hstop⟩ :=
    (readPattern_error_place (nested 33)).2.2.1 _ hdeep
  have hblank : ∀ c ∈ " \t".toList, Text.isBlank c = true :=
    List.all_eq_true.mp (by decide +kernel)
  exact ⟨⟨hsized, hplace⟩, ⟨hended, hviable⟩, ⟨hdeep, opening, after, hinput, hcount, hstop⟩,
    (readPattern_error_place " \t").2.2.2.mpr hblank⟩

end Sample

end ObjectMapping
