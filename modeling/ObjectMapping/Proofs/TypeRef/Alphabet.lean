import ObjectMapping.TypeRef.Reader

namespace ObjectMapping

def Text.blankPoints : List Nat :=
  [0x09, 0x0A, 0x0B, 0x0C, 0x0D, 0x20, 0x85, 0xA0, 0x1680, 0x2000, 0x2001, 0x2002, 0x2003, 0x2004,
   0x2005, 0x2006, 0x2007, 0x2008, 0x2009, 0x200A, 0x2028, 0x2029, 0x202F, 0x205F, 0x3000]

theorem Text.toNat_mem_blankPoints {c : Char} (hc : Text.isBlank c = true) :
    c.toNat ∈ Text.blankPoints := by
  simp only [Text.isBlank, Text.blank, Text.CharClass.contains, Text.CharClass.covers,
    Bool.and_eq_true, Bool.or_eq_true, decide_eq_true_eq, Bool.false_eq_true, or_false] at hc
  simp only [Text.blankPoints, List.mem_cons, List.not_mem_nil, or_false]
  omega

theorem Text.isAlphanumeric_eq_false_of_isBlank {c : Char} (hc : Text.isBlank c = true) :
    Text.isAlphanumeric c = false := by
  -- the blanks are few, so each is looked up in the table of letters and numbers
  have hall : ∀ n ∈ Text.blankPoints, Text.CharClass.covers n Text.alphanumeric.ranges = false := by
    decide +kernel
  exact hall c.toNat (Text.toNat_mem_blankPoints hc)

namespace TypeRef

/-- No blank is a character of a name. -/
theorem isNameChar_eq_false_of_isBlank {c : Char} (hc : Text.isBlank c = true) :
    isNameChar c = false := by
  have halnum := Text.isAlphanumeric_eq_false_of_isBlank hc
  have hpoint := Text.toNat_mem_blankPoints hc
  have hother : ∀ d : Char, d.toNat ∉ Text.blankPoints → (c == d) = false := by
    intro d hd
    apply beq_false_of_ne
    rintro rfl
    exact hd hpoint
  simp [isNameChar, halnum, hother '_' (by decide), hother '.' (by decide),
    hother '$' (by decide)]

theorem isBlank_eq_false_of_isNameChar {c : Char} (hc : isNameChar c = true) :
    Text.isBlank c = false := by
  rw [← Bool.not_eq_true]
  intro hb
  rw [isNameChar_eq_false_of_isBlank hb] at hc
  cases hc

@[simp]
theorem isBlank_punctuation :
    Text.isBlank '*' = false ∧ Text.isBlank '<' = false ∧ Text.isBlank '>' = false ∧
      Text.isBlank ',' = false ∧ Text.isBlank '?' = false := by
  decide

@[simp]
theorem isNameChar_punctuation :
    isNameChar '*' = false ∧ isNameChar '<' = false ∧ isNameChar '>' = false ∧
      isNameChar ',' = false ∧ isNameChar '?' = false := by
  decide

end TypeRef

end ObjectMapping
