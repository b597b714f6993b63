import Mathlib.Data.List.TakeWhile
import ObjectMapping.Json.Reader
import ObjectMapping.Json.Writer

namespace ObjectMapping.Json

/-! ### Digits -/

/-- A hexadecimal digit is read as what it was written for. -/
theorem hexDigit?_hexChar : ∀ n < 16, Reader.hexDigit? (hexChar n) = some n := by
  decide

theorem utf8Size_hexChar : ∀ n < 16, (hexChar n).utf8Size = 1 := by
  decide

/-- The decimal digits of a number stand for the number. -/
theorem ofDigits_toDigits (n : Nat) : ofDigits ((Nat.toDigits 10 n).map digitValue) = n := by
  rw [ofDigits, List.foldl_map]
  exact Nat.ofDigitChars_toDigits (by decide) (by decide)

theorem isDigit_toDigits (n : Nat) : ∀ c ∈ Nat.toDigits 10 n, c.isDigit = true :=
  fun _ => Nat.isDigit_of_mem_toDigits (by decide) (by decide)

/-- Only the number zero starts with a zero. -/
theorem exists_toDigits_eq_cons (n : Nat) (hn : 0 < n) :
    ∃ c rest, Nat.toDigits 10 n = c :: rest ∧ c ≠ '0' := by
  induction n using Nat.strongRecOn with
  | ind n ih =>
    rcases Nat.lt_or_ge n 10 with hlt | hge
    · refine ⟨n.digitChar, [], Nat.toDigits_of_lt_base hlt, ?_⟩
      have hall : ∀ m < 10, 0 < m → Nat.digitChar m ≠ '0' := by decide
      exact hall n hlt hn
    · obtain ⟨c, rest, heq, hc⟩ := ih (n / 10) (by omega) (by omega)
      exact ⟨c, _, by rw [Nat.toDigits_of_base_le (by decide) hge, heq, List.cons_append], hc⟩

namespace Reader

def State.steps (s : State) (cs : List Char) : Except Fault State :=
  cs.foldlM State.step s

variable {s s' : State} {c : Char} {cs ds : List Char} {frames : List Frame} {j : Json}

theorem State.steps_cons (h : s.step c = .ok s') : s.steps (c :: cs) = s'.steps cs := by
  rw [State.steps, List.foldlM_cons, h]
  rfl

theorem State.steps_singleton (h : s.step c = .ok s') : s.steps [c] = .ok s' :=
  State.steps_cons h

theorem State.steps_append (h : s.steps cs = .ok s') : s.steps (cs ++ ds) = s'.steps ds := by
  rw [State.steps] at h
  rw [State.steps, List.foldlM_append, h]
  rfl

/-- Blanks between tokens change nothing. -/
theorem steps_blanks {place : Place} (h : ∀ c ∈ cs, isSpace c = true) :
    (State.between place frames).steps cs = .ok (.between place frames) := by
  induction cs with
  | nil => rfl
  | cons c rest ih =>
    obtain ⟨hc, hrest⟩ := List.forall_mem_cons.mp h
    have hstep : (State.between place frames).step c = .ok (.between place frames) := by
      change (if isSpace c then _ else _) = _
      rw [if_pos hc]
    rw [State.steps_cons hstep, ih hrest]

/-- Line breaks and blanks between tokens change nothing. -/
theorem steps_lineBreak {place : Place} (level : Nat) :
    (State.between place frames).steps (lineBreak level).toList =
      .ok (.between place frames) := by
  apply steps_blanks
  intro c hc
  rw [lineBreak, Text.padRight, String.toList_append] at hc
  rcases List.mem_append.mp hc with hc | hc
  · rw [List.mem_singleton.mp (show c ∈ ['\n'] from hc)]
    rfl
  · rw [String.toList_ofList] at hc
    rw [(List.mem_replicate.mp hc).2]
    rfl

/-! ### Texts -/

def Takes (place : OpenText → State) : Prop :=
  ∀ t c t', t.step c = .ok t' → t'.part ≠ .closed → (place t).step c = .ok (place t')

theorem takes_text (outline : Outline) (frames : List Frame) :
    Takes fun t => .text t outline frames := by
  intro t c t' h hopen
  simp only [State.step, h, Except.mapError, bind, Except.bind]
  rfl

theorem takes_key (frames : List Frame) : Takes fun t => .key t frames := by
  intro t c t' h hopen
  simp only [State.step, h, Except.mapError, bind, Except.bind]
  rfl

variable {place : OpenText → State}

/-- A character given by its number is read as itself. -/
theorem steps_hex (hplace : Takes place) {c : Char} (hc : c.toNat < 0x80) (done : List Char) :
    (place ⟨false, .plain, done⟩).steps
        ['\\', 'u', '0', '0', hexChar (c.toNat / 16), hexChar (c.toNat % 16)] =
      .ok (place ⟨false, .plain, c :: done⟩) := by
  have hhigh : c.toNat / 16 < 16 := by omega
  have hlow : c.toNat % 16 < 16 := by omega
  have hthird : OpenText.step ⟨false, .hex none 2 (some 0), done⟩ (hexChar (c.toNat / 16)) =
      .ok ⟨false, .hex none 3 (some (c.toNat / 16)), done⟩ := by
    simp [OpenText.step, OpenText.stepHex, hexDigit?_hexChar _ hhigh, utf8Size_hexChar _ hhigh]
  have hfourth : OpenText.step ⟨false, .hex none 3 (some (c.toNat / 16)), done⟩
      (hexChar (c.toNat % 16)) = .ok ⟨false, .plain, c :: done⟩ := by
    have hunit : 16 * (c.toNat / 16) + c.toNat % 16 = c.toNat := Nat.div_add_mod _ _
    -- the character is no half of a pair
    have hhigher : ¬(0xD800 ≤ c.toNat) := by omega
    have hlower : ¬(0xDC00 ≤ c.toNat) := by omega
    simp [OpenText.step, OpenText.stepHex, hexDigit?_hexChar _ hlow, utf8Size_hexChar _ hlow,
      hunit, OpenText.pushUnit, hhigher, hlower, OpenText.push, Char.ofNat_toNat]
  rw [State.steps_cons (hplace _ _ ⟨false, .escape none, done⟩ rfl nofun),
    State.steps_cons (hplace _ _ ⟨false, .hex none 0 (some 0), done⟩ rfl nofun),
    State.steps_cons (hplace _ _ ⟨false, .hex none 1 (some 0), done⟩ rfl nofun),
    State.steps_cons (hplace _ _ ⟨false, .hex none 2 (some 0), done⟩ rfl nofun),
    State.steps_cons (hplace _ _ _ hthird nofun), State.steps_cons (hplace _ _ _ hfourth nofun)]
  rfl

/-- A character that was escaped is read as itself. -/
theorem steps_escapeChar (hplace : Takes place) (c : Char) (done : List Char) :
    (place ⟨false, .plain, done⟩).steps (escapeChar c) = .ok (place ⟨false, .plain, c :: done⟩) := by
  have hletter {letter : Char} (h : escaped? letter = some c) (hu : letter ≠ 'u') :
      (place ⟨false, .plain, done⟩).steps ['\\', letter] =
        .ok (place ⟨false, .plain, c :: done⟩) := by
    rw [State.steps_cons (hplace _ _ ⟨false, .escape none, done⟩ rfl nofun)]
    refine State.steps_singleton (hplace _ _ _ ?_ nofun)
    change OpenText.stepEscape _ none letter = _
    rw [OpenText.stepEscape, if_neg hu, h]
    rfl
  unfold escapeChar
  split
  case h_1 => exact hletter rfl (by decide)
  case h_2 => exact hletter rfl (by decide)
  case h_3 => exact hletter rfl (by decide)
  case h_4 => exact hletter rfl (by decide)
  case h_5 => exact hletter rfl (by decide)
  case h_6 => exact hletter rfl (by decide)
  case h_7 => exact hletter rfl (by decide)
  -- all others stand for themselves, or are given by their number
  case h_8 hquote hbackslash _ _ _ _ _ =>
    split
    case isTrue hcontrol => exact steps_hex hplace (Nat.lt_trans hcontrol (by decide)) done
    case isFalse hplain =>
      refine State.steps_singleton (hplace _ _ _ ?_ nofun)
      change OpenText.stepPlain _ c = _
      rw [OpenText.stepPlain, if_neg hquote, if_neg hbackslash, if_neg hplain]
      rfl

/-- The characters of a text are read as they are, whichever of them were escaped. -/
theorem steps_escaped (hplace : Takes place) (cs done : List Char) :
    (place ⟨false, .plain, done⟩).steps (cs.flatMap escapeChar) =
      .ok (place ⟨false, .plain, cs.reverse ++ done⟩) := by
  induction cs generalizing done with
  | nil => rfl
  | cons c rest ih =>
    rw [List.flatMap_cons, State.steps_append (steps_escapeChar hplace c done), ih,
      List.reverse_cons, List.append_assoc]
    rfl

/-- A quoted text is read up to its closing quote, with all its escapes undone. -/
theorem steps_quoted (hplace : Takes place) {text : String}
    (hbegin : s.step '"' = .ok (place ⟨false, .plain, []⟩))
    (hend : (place ⟨false, .plain, text.toList.reverse⟩).step '"' = .ok s') :
    s.steps (quoted text).toList = .ok s' := by
  have hchars := steps_escaped hplace text.toList []
  rw [List.append_nil] at hchars
  rw [quoted, String.toList_ofList, State.steps_cons hbegin, State.steps_append hchars,
    State.steps_cons hend]
  rfl

/-! ### Numbers -/

def AwaitsValue (s : State) (frames : List Frame) : Prop :=
  ∀ c, isSpace c = false → c ≠ ']' → s.step c = beginValue .anything frames c

def EndsNumber (cs : List Char) : Prop :=
  ∃ c rest, cs = c :: rest ∧ (c = ',' ∨ c = '\n')

theorem step_attach (value : Json) (frames : List Frame) (c : Char) :
    (attach value frames).step c = (attach value frames).stepBehind c := by
  rcases frames with _ | ⟨frame, outer⟩
  · rfl
  · cases frame with
    | array => rfl
    | object done key => cases key <;> rfl

theorem isSpace_digit (hc : c.isDigit = true) : isSpace c = false := by
  rw [Bool.eq_false_iff]
  intro h
  simp only [isSpace, Bool.or_eq_true, beq_iff_eq] at h
  rcases h with ((rfl | rfl) | rfl) | rfl <;> cases hc

theorem beginValue_digit (hc : c.isDigit = true) (hzero : c ≠ '0') :
    beginValue .anything frames c = .ok (.number .whole [c] .anything frames) := by
  unfold beginValue
  split
  case h_9 => exact if_pos hc
  case h_8 => exact absurd rfl hzero
  all_goals exact absurd hc (by decide)

theorem steps_digits {done : List Char} (h : ∀ c ∈ cs, c.isDigit = true) :
    (State.number .whole done .anything frames).steps cs =
      .ok (.number .whole (cs.reverse ++ done) .anything frames) := by
  induction cs generalizing done with
  | nil => rfl
  | cons c rest ih =>
    obtain ⟨hc, hrest⟩ := List.forall_mem_cons.mp h
    have hstep : (State.number .whole done .anything frames).step c =
        .ok (.number .whole (c :: done) .anything frames) := by
      simp only [State.step, NumberPart.next?, if_pos hc]
      rfl
    rw [State.steps_cons hstep, ih hrest, List.reverse_cons, List.append_assoc]
    rfl

theorem closeNumber_toDigits {n : Nat} (hn : n < 0x10000000000000000) :
    closeNumber (Nat.toDigits 10 n).reverse .anything frames =
      .ok (attach (.integer n) frames) := by
  have hdigits := isDigit_toDigits n
  have htake : (Nat.toDigits 10 n).takeWhile Char.isDigit = Nat.toDigits 10 n :=
    List.takeWhile_eq_self_iff.mpr hdigits
  have hdrop : (Nat.toDigits 10 n).dropWhile Char.isDigit = [] :=
    List.dropWhile_eq_nil_iff.mpr hdigits
  have hsign : ((Nat.toDigits 10 n).head? == some '-') = false := by
    rw [beq_eq_false_iff_ne]
    intro h
    exact absurd (hdigits _ (List.mem_of_mem_head? h)) (by decide)
  have hvalue : numberValue (.ofChars (Nat.toDigits 10 n)) = .ok (.integer n) := by
    have hfits : (-0x8000000000000000 : Int) ≤ n ∧ (n : Int) < 0x10000000000000000 := by omega
    simp [numberValue, Numeral.ofChars, hsign, htake, hdrop, ofDigits_toDigits, hfits]
  rw [closeNumber, List.reverse_reverse, hvalue]
  rfl

/-- A number is complete once a comma or a line break follows. -/
theorem steps_number {part : NumberPart} {done tail : List Char} {value : Json}
    (hpart : part = .zero ∨ part = .whole)
    (hclose : closeNumber done .anything frames = .ok (attach value frames))
    (htail : EndsNumber tail) :
    (State.number part done .anything frames).steps tail = (attach value frames).steps tail := by
  obtain ⟨c, rest, rfl, hc⟩ := htail
  have hstep : (State.number part done .anything frames).step c = (attach value frames).step c := by
    rw [step_attach]
    rcases hpart with rfl | rfl <;> rcases hc with rfl | rfl <;>
      simp only [State.step, hclose] <;> rfl
  rw [State.steps, State.steps, List.foldlM_cons, List.foldlM_cons, hstep]

/-- A number of 64 bits is read from its decimal digits. -/
theorem steps_toDigits {n : Nat} (hn : n < 0x10000000000000000) {tail : List Char}
    (hs : AwaitsValue s frames) (htail : EndsNumber tail) :
    s.steps (Nat.toDigits 10 n ++ tail) = (attach (.integer n) frames).steps tail := by
  have hclose : closeNumber (Nat.toDigits 10 n).reverse .anything frames =
      .ok (attach (.integer n) frames) := closeNumber_toDigits hn
  rcases Nat.eq_zero_or_pos n with rfl | hpos
  · have hbegin : s.step '0' = .ok (.number .zero ['0'] .anything frames) :=
      hs '0' (by decide) (by decide)
    exact (State.steps_cons hbegin).trans (steps_number (.inl rfl) hclose htail)
  · obtain ⟨c, rest, heq, hzero⟩ := exists_toDigits_eq_cons n hpos
    have hdigits := isDigit_toDigits n
    rw [heq] at hdigits hclose ⊢
    obtain ⟨hc, hrest⟩ := List.forall_mem_cons.mp hdigits
    have hbegin : s.step c = .ok (.number .whole [c] .anything frames) := by
      rw [hs c (isSpace_digit hc) (by rintro rfl; cases hc), beginValue_digit hc hzero]
    rw [List.cons_append, State.steps_cons hbegin, State.steps_append (steps_digits hrest)]
    rw [List.reverse_cons] at hclose
    exact steps_number (.inr rfl) hclose htail

end Reader

end ObjectMapping.Json
