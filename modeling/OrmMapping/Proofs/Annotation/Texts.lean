import OrmMapping.Annotation.Basic
import OrmMapping.Proofs.Text.Blank

/-!
# Texts in annotations

A text that is read from an annotation says something: it is never blank, whatever the value is,
and there is no space around it. Where a reader gets a text, it need not ask whether the text is
empty.

* `isBlank_text`: the text of a value that is not blank;
* `Value.isReadable`: the values that something can be read of;
* `text?_eq_error_iff`, `text?_eq_none_iff`: when no text is read under a key;
* `isBlank_of_text?`, `trim_of_text?`: the text that is read.
-/

namespace OrmMapping

variable {a : Annotations} {key : String} {keys : List String} {s : String}

/-! ## Numbers -/

/-- Digits are no space. -/
theorem not_blank_of_isDigit {c : Char} (h : c.isDigit = true) : Text.isBlankChar c = false := by
  simp only [Char.isDigit, Bool.and_eq_true, decide_eq_true_eq, UInt32.le_iff_toNat_le] at h
  obtain ⟨hlow, hhigh⟩ : 48 ≤ c.toNat ∧ c.toNat ≤ 57 := h
  simp only [Text.isBlankChar, Bool.or_eq_false_iff, Bool.and_eq_false_iff,
    decide_eq_false_iff_not, beq_eq_false_iff_ne]
  omega

/-- A natural number has digits, so that its text is not blank. -/
theorem isBlank_repr (n : Nat) : Text.isBlank n.repr = false := by
  obtain ⟨c, hmem⟩ := List.exists_mem_of_ne_nil (Nat.toDigits 10 n) Nat.toDigits_ne_nil
  have hdigit : c.isDigit = true := Nat.isDigit_of_mem_toDigits (by decide) (by decide) hmem
  refine Text.isBlank_eq_false_iff.mpr ⟨c, ?_, not_blank_of_isDigit hdigit⟩
  rw [Nat.toList_repr]
  exact hmem

/-- The text of an integer is not blank, with or without a sign. -/
theorem isBlank_toString_int (n : Int) : Text.isBlank (toString n) = false := by
  rw [Int.toString_eq_repr, Int.repr_eq_if]
  split
  · exact isBlank_repr _
  · exact Text.isBlank_append_right _ (isBlank_repr _)

/-- Every decimal has a point or an exponent. -/
theorem Decimal.exists_mem_chars (d : Decimal) : ∃ c ∈ d.chars, Text.isBlankChar c = false := by
  unfold Decimal.chars
  split
  · refine ⟨'.', ?_, by decide⟩
    unfold Decimal.positional
    split
    · simp
    · simp
  · refine ⟨'e', ?_, by decide⟩
    unfold Decimal.scientific
    simp

/-- The text of a floating-point number is not blank, whatever the number is. -/
theorem Binary64.exists_mem_chars (x : Binary64) :
    ∃ c ∈ x.chars, Text.isBlankChar c = false := by
  cases x with
  | nan => exact ⟨'n', List.mem_cons_self, by decide⟩
  | infinite negative => exact ⟨'i', List.mem_append_right _ List.mem_cons_self, by decide⟩
  | finite negative significand exponent =>
    have hmagnitude : ∃ c ∈ if significand == 0 then ['0', '.', '0'] else
        (Binary64.shortest significand exponent).chars, Text.isBlankChar c = false := by
      split
      · exact ⟨'0', List.mem_cons_self, by decide⟩
      · exact Decimal.exists_mem_chars _
    obtain ⟨c, hmem, hc⟩ := hmagnitude
    exact ⟨c, List.mem_append_right _ hmem, hc⟩

/-! ## Values -/

/-- If `v` is not blank, then neither is its text. -/
theorem isBlank_text {v : Value} (h : v.isBlank = false) : Text.isBlank v.text = false := by
  cases v with
  | null => cases h
  | str s => exact h
  | bool b => cases b <;> decide
  | int n => exact isBlank_toString_int n
  | float x =>
    obtain ⟨c, hmem, hc⟩ := Binary64.exists_mem_chars x
    refine Text.isBlank_eq_false_iff.mpr ⟨c, ?_, hc⟩
    show c ∈ (String.ofList x.chars).toList
    rw [String.toList_ofList]
    exact hmem
  | list items =>
    -- brackets stand around the items, whatever they are
    exact Text.isBlank_append_left _ (Text.isBlank_append_left _ (by decide))
  | map entries =>
    exact Text.isBlank_append_left _ (Text.isBlank_append_left _ (by decide))

/-- One item that is not blank makes the text of a list not blank. -/
theorem isBlank_listText_of_mem {items : List Value} {v : Value} (hmem : v ∈ items)
    (h : v.isBlank = false) : Text.isBlank (Annotations.listText items) = false := by
  have hkept : v ∈ items.filter fun v => !v.isBlank := List.mem_filter.mpr ⟨hmem, by simp [h]⟩
  unfold Annotations.listText
  -- the first item that is kept comes first in the joined text
  cases hitems : items.filter fun v => !v.isBlank with
  | nil =>
    rw [hitems] at hkept
    cases hkept
  | cons first rest =>
    have hfirst : first ∈ items.filter fun v => !v.isBlank := hitems ▸ List.mem_cons_self
    have hsays : first.isBlank = false := by simpa using (List.mem_filter.mp hfirst).2
    exact Text.isBlank_joinWith _ _ (Text.isBlank_trim (isBlank_text hsays))

/-- A list text that is not empty is not blank. -/
theorem isBlank_listText {items : List Value} (h : (Annotations.listText items).isEmpty = false) :
    Text.isBlank (Annotations.listText items) = false := by
  cases hitems : items.filter fun v => !v.isBlank with
  | nil =>
    rw [Annotations.listText, hitems] at h
    cases h
  | cons first rest =>
    have hfirst : first ∈ items.filter fun v => !v.isBlank := hitems ▸ List.mem_cons_self
    obtain ⟨hmem, hfilled⟩ := List.mem_filter.mp hfirst
    exact isBlank_listText_of_mem hmem (by simpa using hfilled)

/-- There is no space around the items that are joined. -/
theorem trim_listText (items : List Value) :
    Text.trim (Annotations.listText items) = Annotations.listText items := by
  unfold Annotations.listText
  by_cases hnone : ((items.filter fun v => !v.isBlank).map fun v => Text.trim v.text) = []
  · rw [hnone]
    rfl
  · refine Text.trim_of_hasInkedEnds (Text.HasInkedEnds.joinWith "," hnone ?_)
    intro part hpart
    obtain ⟨v, hv, rfl⟩ := List.mem_map.mp hpart
    have hsays : v.isBlank = false := by simpa using (List.mem_filter.mp hv).2
    exact Text.hasInkedEnds_trim (isBlank_text hsays)

/-! ## What is read -/

/-- Whether there is something to read in a value: a list needs an item that is not blank. -/
def Value.isReadable : Value → Bool
  | .list items => items.any fun v => !v.isBlank
  | v => !v.isBlank

/-- The text of a list is empty exactly when there is nothing to read in the list. -/
theorem isEmpty_listText (items : List Value) :
    (Annotations.listText items).isEmpty = !(Value.list items).isReadable := by
  cases hreadable : (Value.list items).isReadable with
  | true =>
    obtain ⟨v, hmem, hsays⟩ := List.any_eq_true.mp hreadable
    have hblank := isBlank_listText_of_mem hmem (by simpa using hsays)
    cases hempty : (Annotations.listText items).isEmpty with
    | false => rfl
    | true =>
      rw [String.isEmpty_iff.mp hempty] at hblank
      cases hblank
  | false =>
    have hnone : items.filter (fun v => !v.isBlank) = [] := by
      rw [List.filter_eq_nil_iff]
      exact List.any_eq_false.mp hreadable
    rw [Annotations.listText, hnone]
    rfl

/-- `text?` refuses maps and nothing else, with `notScalar` for the key. -/
theorem text?_eq_error_iff {e : MappingError} :
    a.text? key = .error e ↔
      (∃ entries, a.value key = .map entries) ∧ e = a.malformed (.notScalar key) := by
  unfold Annotations.text?
  cases a.value key with
  | map entries => simp [Value.isBlank, eq_comm]
  | str s => cases hblank : (Value.str s).isBlank <;> simp [hblank]
  | null => simp [Value.isBlank]
  | bool b => simp [Value.isBlank]
  | int n => simp [Value.isBlank]
  | float x => simp [Value.isBlank]
  | list items => simp [Value.isBlank]

/-- `text?` gives no text exactly where the value is not readable. -/
theorem text?_eq_none_iff : a.text? key = .ok none ↔ (a.value key).isReadable = false := by
  unfold Annotations.text?
  cases a.value key with
  | map entries => simp [Value.isBlank, Value.isReadable]
  | str s => cases hblank : (Value.str s).isBlank <;> simp [Value.isReadable, hblank]
  | null => simp [Value.isBlank, Value.isReadable]
  | bool b => simp [Value.isBlank, Value.isReadable]
  | int n => simp [Value.isBlank, Value.isReadable]
  | float x => simp [Value.isBlank, Value.isReadable]
  | list items =>
    have hempty := isEmpty_listText items
    cases hreadable : (Value.list items).isReadable with
    | true =>
      rw [hreadable] at hempty
      simp [Value.isBlank, hempty]
    | false =>
      rw [hreadable] at hempty
      simp [Value.isBlank, hempty]

/-- A text `s` that `text?` gives is a word for a truth value, the joined text of a list that is not
empty, or the trimmed text of a value that is not blank. -/
theorem text?_cases (h : a.text? key = .ok (some s)) :
    (∃ b, s = Annotations.boolText b) ∨
      (∃ items, s = Annotations.listText items ∧ s.isEmpty = false) ∨
      ∃ v : Value, v.isBlank = false ∧ s = Text.trim v.text := by
  unfold Annotations.text? at h
  dsimp only at h
  cases hblank : (a.value key).isBlank with
  | true =>
    rw [hblank] at h
    cases h
  | false =>
    simp only [hblank, Bool.false_eq_true, if_false] at h
    -- truth values and lists have texts of their own, and maps have none
    split at h
    · next b _ =>
      cases h
      exact Or.inl ⟨b, rfl⟩
    · next items _ =>
      split at h
      · cases h
      · next hempty =>
        cases h
        exact Or.inr (Or.inl ⟨items, rfl, by simpa using hempty⟩)
    · cases h
    · cases h
      exact Or.inr (Or.inr ⟨_, hblank, rfl⟩)

/-- A text that `text?` gives is not blank. -/
theorem isBlank_of_text? (h : a.text? key = .ok (some s)) : Text.isBlank s = false := by
  rcases text?_cases h with ⟨b, rfl⟩ | ⟨items, rfl, hsays⟩ | ⟨v, hsays, rfl⟩
  · cases b <;> decide
  · exact isBlank_listText hsays
  · exact Text.isBlank_trim (isBlank_text hsays)

/-- A text that `text?` gives has no space around it. -/
theorem trim_of_text? (h : a.text? key = .ok (some s)) : Text.trim s = s := by
  rcases text?_cases h with ⟨b, rfl⟩ | ⟨items, rfl, -⟩ | ⟨v, -, rfl⟩
  · cases b <;> decide
  · exact trim_listText items
  · exact Text.trim_trim v.text

end OrmMapping
