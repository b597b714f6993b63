import ObjectMapping.Proofs.Json.Tokens

/-!
Documents are read back from their texts with one item or member a line. The reader awaits a value
in several places. Wherever it does, the text of a value leads it behind the value, so that the
induction is on the document and does not speak of where it stands.
-/

namespace ObjectMapping.Json

mutual

/-- Whether a reader can take the document where `room` more arrays and objects may be opened: its
numbers are natural and have 64 bits. -/
def fits (room : Nat) : Json → Bool
  | null | bool _ | text _ => true
  | integer value => decide (0 ≤ value) && decide (value < 0x10000000000000000)
  | fraction _ => false
  | array items => decide (0 < room) && fitItems (room - 1) items
  | object members => decide (0 < room) && fitMembers (room - 1) members

def fitItems (room : Nat) : List Json → Bool
  | [] => true
  | item :: rest => fits room item && fitItems room rest

def fitMembers (room : Nat) : List (String × Json) → Bool
  | [] => true
  | (_, value) :: rest => fits room value && fitMembers room rest

end

namespace Reader

variable {s : State} {cs : List Char} {frames : List Frame} {j : Json}

/-- Where a value is awaited, its text leads behind the value, as deep as `room` allows. -/
def Rereads (room : Nat) (j : Json) : Prop :=
  ∀ level s frames tail, frames.length + room ≤ maxDepth → AwaitsValue s frames →
    EndsNumber tail →
    s.steps ((indentedAt level j).toList ++ tail) = (attach j frames).steps tail

variable {room : Nat}

theorem rereads_of_steps {text : List Char} (htext : ∀ level, (indentedAt level j).toList = text)
    (h : ∀ s frames, AwaitsValue s frames → s.steps text = .ok (attach j frames)) :
    Rereads room j := by
  intro level s frames tail _ hs _
  rw [htext, State.steps_append (h s frames hs)]

theorem rereads_null : Rereads room .null := by
  have htext (level : Nat) : (indentedAt level .null).toList = ['n', 'u', 'l', 'l'] := by
    simp [indentedAt]
  exact rereads_of_steps htext fun s frames hs => State.steps_cons (hs 'n' rfl (by decide))

theorem rereads_bool (value : Bool) : Rereads room (.bool value) := by
  cases value with
  | false =>
    have htext (level : Nat) :
        (indentedAt level (.bool false)).toList = ['f', 'a', 'l', 's', 'e'] := by
      simp [indentedAt]
    exact rereads_of_steps htext fun s frames hs => State.steps_cons (hs 'f' rfl (by decide))
  | true =>
    have htext (level : Nat) : (indentedAt level (.bool true)).toList = ['t', 'r', 'u', 'e'] := by
      simp [indentedAt]
    exact rereads_of_steps htext fun s frames hs => State.steps_cons (hs 't' rfl (by decide))

theorem rereads_integer {n : Nat} (hn : n < 0x10000000000000000) : Rereads room (.integer n) := by
  intro level s frames tail _ hs htail
  have htext : (indentedAt level (.integer n)).toList = Nat.toDigits 10 n := by
    change (toString n).toList = _
    rw [Nat.toString_eq_ofList_toDigits, String.toList_ofList]
  rw [htext, steps_toDigits hn hs htail]

theorem rereads_text (text : String) : Rereads room (.text text) := by
  have htext (level : Nat) : (indentedAt level (.text text)).toList = (quoted text).toList := by
    rw [indentedAt]
  refine rereads_of_steps htext fun s frames hs => ?_
  refine steps_quoted (takes_text .anything frames) (hs '"' rfl (by decide)) ?_
  change closeText ⟨false, .closed, text.toList.reverse⟩ .anything frames = _
  rw [closeText, OpenText.content, List.reverse_reverse, String.ofList_toList]
  rfl

/-! ### Arrays and objects -/

theorem beginValue_array (h : frames.length < maxDepth) :
    beginValue .anything frames '[' =
      .ok (.between .firstItem (.array [] .anything .anything :: frames)) := by
  change enter .firstItem .anything .anything (.array []) (.array [] .anything .anything) frames = _
  rw [enter, if_neg (by exact Bool.false_ne_true), if_neg (Nat.not_le.mpr h)]
  rfl

theorem beginValue_object (h : frames.length < maxDepth) :
    beginValue .anything frames '{' =
      .ok (.between .firstKey (.object [] none .anything :: frames)) := by
  change enter .firstKey .anything .anything (.object []) (.object [] none .anything) frames = _
  rw [enter, if_neg (by exact Bool.false_ne_true), if_neg (Nat.not_le.mpr h)]
  rfl

theorem awaits_value (frames : List Frame) :
    AwaitsValue (.between (.value .anything) frames) frames := by
  intro c hspace _
  exact if_neg (by rw [hspace]; exact Bool.false_ne_true)

theorem awaits_firstItem (done : List Json) (frames : List Frame) :
    AwaitsValue (.between .firstItem (.array done .anything .anything :: frames))
      (.array done .anything .anything :: frames) := by
  intro c hspace hc
  have hnot : ¬isSpace c = true := by rw [hspace]; exact Bool.false_ne_true
  exact (if_neg hnot).trans (if_neg hc)

theorem awaits_laterItem (done : List Json) (frames : List Frame) :
    AwaitsValue (.between .laterItem (.array done .anything .anything :: frames))
      (.array done .anything .anything :: frames) := by
  intro c hspace hc
  have hnot : ¬isSpace c = true := by rw [hspace]; exact Bool.false_ne_true
  have hopen : ¬(c = ']' && !isSkipping (.array done .anything .anything :: frames)) = true := by
    simp [hc]
  exact (if_neg hnot).trans (if_neg hopen)

theorem endsNumber_lineBreak (level : Nat) : EndsNumber ((lineBreak level).toList ++ cs) := by
  rw [lineBreak, Text.padRight, String.toList_append, List.append_assoc]
  exact ⟨'\n', _, rfl, .inr rfl⟩

theorem endsNumber_indentedItems (level : Nat) (items : List Json) :
    EndsNumber ((indentedItems level items).toList ++ cs) := by
  cases items with
  | nil =>
    rw [indentedItems, String.toList_append, List.append_assoc]
    exact endsNumber_lineBreak level
  | cons item rest =>
    simp only [indentedItems, String.toList_append, List.append_assoc]
    exact ⟨',', _, rfl, .inl rfl⟩

theorem endsNumber_indentedMembers (level : Nat) (members : List (String × Json)) :
    EndsNumber ((indentedMembers level members).toList ++ cs) := by
  cases members with
  | nil =>
    rw [indentedMembers, String.toList_append, List.append_assoc]
    exact endsNumber_lineBreak level
  | cons m rest =>
    simp only [indentedMembers, String.toList_append, List.append_assoc]
    exact ⟨',', _, rfl, .inl rfl⟩

/-- Behind an item, the rest of the items is read up to the bracket that closes the array. -/
theorem steps_indentedItems {level : Nat} {items done : List Json}
    (hroom : frames.length + (room + 1) ≤ maxDepth) (h : ∀ item ∈ items, Rereads room item) :
    (State.between .behindItem (.array done .anything .anything :: frames)).steps
        ((indentedItems level items).toList ++ cs) =
      (attach (.array (done.reverse ++ items)) frames).steps cs := by
  induction items generalizing done with
  | nil =>
    rw [indentedItems, String.toList_append, List.append_assoc,
      State.steps_append (steps_lineBreak level), List.append_nil]
    exact State.steps_cons rfl
  | cons item rest ih =>
    obtain ⟨hitem, hrest⟩ := List.forall_mem_cons.mp h
    simp only [indentedItems, String.toList_append, List.append_assoc]
    have hinside : (Frame.array done .anything .anything :: frames).length + room ≤ maxDepth := by
      rw [List.length_cons]
      omega
    have hcomma : (State.between .behindItem (.array done .anything .anything :: frames)).step ',' =
        .ok (.between .laterItem (.array done .anything .anything :: frames)) := rfl
    refine (State.steps_append (State.steps_singleton hcomma)).trans ?_
    rw [State.steps_append (steps_lineBreak (level + 1)),
      hitem _ _ _ _ hinside (awaits_laterItem done frames) (endsNumber_indentedItems level rest)]
    -- the item is done, and the reader stands behind it again
    refine (ih hrest).trans ?_
    rw [List.reverse_cons, List.append_assoc]
    rfl

/-- An array is read from its text if its items are, with room for one more. -/
theorem rereads_array {items : List Json} (h : ∀ item ∈ items, Rereads room item) :
    Rereads (room + 1) (.array items) := by
  intro level s frames tail hroom hs _
  have hbegin : s.step '[' = .ok (.between .firstItem (.array [] .anything .anything :: frames)) :=
    (hs '[' rfl (by decide)).trans (beginValue_array (by omega))
  cases items with
  | nil =>
    rw [indentedAt]
    refine (State.steps_cons hbegin).trans ?_
    exact State.steps_cons rfl
  | cons item rest =>
    obtain ⟨hitem, hrest⟩ := List.forall_mem_cons.mp h
    have hinside : (Frame.array [] .anything .anything :: frames).length + room ≤ maxDepth := by
      rw [List.length_cons]
      omega
    simp only [indentedAt, String.toList_append, List.append_assoc]
    refine (State.steps_append (State.steps_singleton hbegin)).trans ?_
    rw [State.steps_append (steps_lineBreak (level + 1)),
      hitem _ _ _ _ hinside (awaits_firstItem [] frames) (endsNumber_indentedItems level rest)]
    exact steps_indentedItems hroom hrest

/-- Where a key is awaited, a member is read with its value. -/
theorem steps_member {level : Nat} {done : List (String × Json)} {key : String} {value : Json}
    (hroom : frames.length + (room + 1) ≤ maxDepth) (hvalue : Rereads room value)
    (hbegin : s.step '"' = .ok (.key ⟨false, .plain, []⟩ (.object done none .anything :: frames)))
    (hends : EndsNumber cs) :
    s.steps ((quoted key).toList ++ ([':', ' '] ++ ((indentedAt level value).toList ++ cs))) =
      (State.between .behindMember (.object ((key, value) :: done) none .anything :: frames)).steps
        cs := by
  have hinside : (Frame.object done (some key) .anything :: frames).length + room ≤ maxDepth := by
    rw [List.length_cons]
    omega
  have hkey : s.steps (quoted key).toList =
      .ok (.between .behindKey (.object done (some key) .anything :: frames)) := by
    refine steps_quoted (takes_key _) hbegin ?_
    change closeKey (OpenText.content ⟨false, .closed, key.toList.reverse⟩)
      (.object done none .anything :: frames) = _
    rw [OpenText.content, List.reverse_reverse, String.ofList_toList]
    rfl
  have hcolon : (State.between .behindKey (.object done (some key) .anything :: frames)).steps
      [':', ' '] = .ok (.between (.value .anything) (.object done (some key) .anything :: frames)) :=
    rfl
  rw [State.steps_append hkey, State.steps_append hcolon,
    hvalue _ _ _ _ hinside (awaits_value _) hends]
  rfl

/-- Behind a member, the rest of the members is read up to the brace that closes the object. -/
theorem steps_indentedMembers {level : Nat} {members done : List (String × Json)}
    (hroom : frames.length + (room + 1) ≤ maxDepth) (h : ∀ m ∈ members, Rereads room m.2) :
    (State.between .behindMember (.object done none .anything :: frames)).steps
        ((indentedMembers level members).toList ++ cs) =
      (attach (.object (done.reverse ++ members)) frames).steps cs := by
  induction members generalizing done with
  | nil =>
    rw [indentedMembers, String.toList_append, List.append_assoc,
      State.steps_append (steps_lineBreak level), List.append_nil]
    exact State.steps_cons rfl
  | cons m rest ih =>
    obtain ⟨hvalue, hrest⟩ := List.forall_mem_cons.mp h
    simp only [indentedMembers, String.toList_append, List.append_assoc]
    have hcomma : (State.between .behindMember (.object done none .anything :: frames)).step ',' =
        .ok (.between .laterKey (.object done none .anything :: frames)) := rfl
    refine (State.steps_append (State.steps_singleton hcomma)).trans ?_
    rw [State.steps_append (steps_lineBreak (level + 1))]
    refine (steps_member hroom hvalue rfl (endsNumber_indentedMembers level rest)).trans ?_
    rw [ih hrest, List.reverse_cons, List.append_assoc]
    rfl

/-- An object is read from its text if its values are, with room for one more. -/
theorem rereads_object {members : List (String × Json)} (h : ∀ m ∈ members, Rereads room m.2) :
    Rereads (room + 1) (.object members) := by
  intro level s frames tail hroom hs _
  have hbegin : s.step '{' = .ok (.between .firstKey (.object [] none .anything :: frames)) :=
    (hs '{' rfl (by decide)).trans (beginValue_object (by omega))
  cases members with
  | nil =>
    rw [indentedAt]
    refine (State.steps_cons hbegin).trans ?_
    exact State.steps_cons rfl
  | cons m rest =>
    obtain ⟨hvalue, hrest⟩ := List.forall_mem_cons.mp h
    simp only [indentedAt, String.toList_append, List.append_assoc]
    refine (State.steps_append (State.steps_singleton hbegin)).trans ?_
    rw [State.steps_append (steps_lineBreak (level + 1))]
    refine (steps_member hroom hvalue rfl (endsNumber_indentedMembers level rest)).trans ?_
    exact steps_indentedMembers hroom hrest

mutual

/-- A document within the limits of the reader is read back. -/
theorem rereads_of_fits : {room : Nat} → (j : Json) → j.fits room = true → Rereads room j
  | _, .null, _ => rereads_null
  | _, .bool value, _ => rereads_bool value
  | _, .integer value, h => by
    simp only [fits, Bool.and_eq_true, decide_eq_true_eq] at h
    obtain ⟨n, rfl⟩ := Int.eq_ofNat_of_zero_le h.1
    exact rereads_integer (by omega)
  | _, .fraction _, h => by simp [fits] at h
  | _, .text content, _ => rereads_text content
  | room, .array items, h => by
    simp only [fits, Bool.and_eq_true, decide_eq_true_eq] at h
    obtain ⟨n, rfl⟩ := Nat.exists_eq_succ_of_ne_zero h.1.ne'
    exact rereads_array (rereads_of_fitItems items h.2)
  | room, .object members, h => by
    simp only [fits, Bool.and_eq_true, decide_eq_true_eq] at h
    obtain ⟨n, rfl⟩ := Nat.exists_eq_succ_of_ne_zero h.1.ne'
    exact rereads_object (rereads_of_fitMembers members h.2)

theorem rereads_of_fitItems : {room : Nat} → (items : List Json) → fitItems room items = true →
    ∀ item ∈ items, Rereads room item
  | _, [], _ => fun _ h => by cases h
  | _, item :: rest, h => by
    rw [fitItems, Bool.and_eq_true] at h
    exact List.forall_mem_cons.mpr ⟨rereads_of_fits item h.1, rereads_of_fitItems rest h.2⟩

theorem rereads_of_fitMembers : {room : Nat} → (members : List (String × Json)) →
    fitMembers room members = true → ∀ m ∈ members, Rereads room m.2
  | _, [], _ => fun _ h => by cases h
  | _, (key, value) :: rest, h => by
    rw [fitMembers, Bool.and_eq_true] at h
    exact List.forall_mem_cons.mpr ⟨rereads_of_fits value h.1, rereads_of_fitMembers rest h.2⟩

end

end Reader

/-- What is written with a line for each item is read back. -/
theorem read_indented {j : Json} (h : j.fits Reader.maxDepth = true) :
    read .anything (j.indented ++ "\n") = .ok j := by
  have hsteps := Reader.rereads_of_fits j h 0 (.between (.value .anything) []) [] ['\n']
    (by rw [List.length_nil, Nat.zero_add]) (Reader.awaits_value []) ⟨'\n', [], rfl, .inr rfl⟩
  rw [read, String.toList_append]
  exact (congrArg (· >>= Reader.State.finish) hsteps).trans rfl

end ObjectMapping.Json
