import OrmMapping.Annotation.PairNotation

/-!
# Characters of names

No letter or number is space, so a name ends where space begins.

* `isUpper_iff`, `isLower_iff`, `isDigit_iff`: letters and digits by their numbers;
* `not_blank_of_isWordChar`: beyond ASCII by a look at the ranges;
* `not_blank_of_isNameChar`: the same with the point and the hyphen.
-/

namespace OrmMapping

variable {c : Char}

namespace Text

/-! ## ASCII -/

/-- `Char.isUpper` by code points: the capital letters of ASCII. -/
theorem isUpper_iff : c.isUpper = true ↔ 0x41 ≤ c.toNat ∧ c.toNat ≤ 0x5A :=
  decide_eq_true_iff

/-- `Char.isLower` by code points: the small letters of ASCII. -/
theorem isLower_iff : c.isLower = true ↔ 0x61 ≤ c.toNat ∧ c.toNat ≤ 0x7A :=
  Bool.and_eq_true_iff.trans (and_congr decide_eq_true_iff decide_eq_true_iff)

/-- `Char.isDigit` by code points: the digits of ASCII. -/
theorem isDigit_iff : c.isDigit = true ↔ 0x30 ≤ c.toNat ∧ c.toNat ≤ 0x39 :=
  Bool.and_eq_true_iff.trans (and_congr decide_eq_true_iff decide_eq_true_iff)

theorem isAlphanum_iff :
    c.isAlphanum = true ↔ (c.isUpper = true ∨ c.isLower = true) ∨ c.isDigit = true :=
  Bool.or_eq_true_iff.trans (or_congr_left Bool.or_eq_true_iff)

/-! ## Space -/

/-- Whether a range of code points beyond ASCII leads past all space. -/
def isInkedRange (range : Nat × Nat) : Bool :=
  Nat.blt 0x7F range.1 && (range.2.blt 0x85 || Nat.blt 0x85 range.1) &&
    (range.2.blt 0xA0 || Nat.blt 0xA0 range.1) && (range.2.blt 0x1680 || Nat.blt 0x1680 range.1) &&
    (range.2.blt 0x2000 || Nat.blt 0x205F range.1) && (range.2.blt 0x3000 || Nat.blt 0x3000 range.1)

/-- No range of `wordRanges` meets a code point of `isBlankChar`, checked range by range. -/
theorem wordRanges_inked : ∀ range ∈ wordRanges, isInkedRange range = true := by
  decide +kernel

/-- If `wordRanges` has `c`, then `c` is not space: its range is an inked one. -/
theorem not_blank_of_mem_wordRanges (h : wordRanges.has c = true) : isBlankChar c = false := by
  obtain ⟨range, hrange, hfirst, hlast⟩ := (wordRanges.has_iff c).mp h
  have hinked := wordRanges_inked range hrange
  simp only [isInkedRange, Bool.or_eq_true, Bool.and_eq_true, Nat.blt_eq] at hinked
  -- both sides are comparisons of code points now
  simp only [isBlankChar, Bool.or_eq_false_iff, Bool.and_eq_false_iff, decide_eq_false_iff_not,
    beq_eq_false_iff_ne]
  omega

/-- Letters and digits of ASCII are not space. -/
theorem not_blank_of_isAlphanum (h : c.isAlphanum = true) : isBlankChar c = false := by
  rw [isAlphanum_iff, isUpper_iff, isLower_iff, isDigit_iff] at h
  simp only [isBlankChar, Bool.or_eq_false_iff, Bool.and_eq_false_iff, decide_eq_false_iff_not,
    beq_eq_false_iff_ne]
  omega

/-- If `c` is a word character, in ASCII or beyond, then it is not space. -/
theorem not_blank_of_isWordChar (h : isWordChar c = true) : isBlankChar c = false := by
  unfold isWordChar at h
  split at h
  · rcases Bool.or_eq_true_iff.mp h with halphanum | hline
    · exact not_blank_of_isAlphanum halphanum
    · rw [beq_iff_eq] at hline
      subst hline
      decide
  · exact not_blank_of_mem_wordRanges h

end Text

/-- The point and the hyphen, which a name may have too, are not space either. -/
theorem PairNotation.not_blank_of_isNameChar (h : isNameChar c = true) :
    Text.isBlankChar c = false := by
  simp only [isNameChar, Bool.or_eq_true, beq_iff_eq] at h
  rcases h with (hword | rfl) | rfl
  · exact Text.not_blank_of_isWordChar hword
  · decide
  · decide

end OrmMapping
