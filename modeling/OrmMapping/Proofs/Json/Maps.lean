import Mathlib.Data.List.DropRight
import OrmMapping.Json.Reader

/-!
# Maps in JSON texts

* `exists_of_ofJson?_map`: a text that is read as a map opens a brace, and after it stands a quote
  or the closing brace.
-/

namespace OrmMapping.Json

variable {fuel depth : Nat} {negative : Bool} {cs rest after : List Char} {text : String}
  {entries : Keyed Value}

/-! ## How a map begins -/

/-- Space is skipped up to a character that is none, so skipping again does nothing. -/
theorem skipSpace_skipSpace (cs : List Char) : skipSpace (skipSpace cs) = skipSpace cs :=
  List.dropWhile_idempotent _ _

/-- A number is no map. -/
theorem readMagnitude_ne_map : readMagnitude negative cs ≠ some (.map entries, rest) := by
  intro h
  unfold readMagnitude at h
  dsimp only at h
  split at h
  · cases h
  · simp only [Option.bind_eq_bind, Option.bind_eq_some_iff, Option.pure_def] at h
    obtain ⟨fraction, -, exponent, -, h⟩ := h
    split at h <;> cases h

/-- What is read without a bracket or quote at its beginning is a word or a number, and no map. -/
theorem readScalar_ne_map : readScalar cs ≠ some (.map entries, rest) := by
  intro h
  unfold readScalar at h
  split at h
  case h_7 | h_8 => exact readMagnitude_ne_map h
  all_goals simp at h

/-- Entries begin with the quote of a key. -/
theorem exists_of_readEntries {pairs : List (String × Value)}
    (h : readEntries fuel depth cs = some (pairs, after)) : ∃ more, skipSpace cs = '"' :: more := by
  cases fuel with
  | zero =>
    rw [readEntries] at h
    cases h
  | succ fuel =>
    rw [readEntries] at h
    split at h
    · next more hquote => exact ⟨more, hquote⟩
    · cases h

/-- A value that is read as a map begins with a brace, after which the quote of a key or the closing
brace follows. -/
theorem exists_of_readValue_map (h : readValue fuel depth cs = some (.map entries, after)) :
    ∃ rest c more, skipSpace cs = '\x7b' :: rest ∧ skipSpace rest = c :: more ∧
      (c = '\x7d' ∨ c = '"') := by
  cases fuel with
  | zero =>
    rw [readValue] at h
    cases h
  | succ fuel =>
    rw [readValue] at h
    split at h
    · next rest hbrace =>
      refine ⟨rest, ?_⟩
      split at h
      · -- the map is empty
        next more hclose => exact ⟨_, more, hbrace, hclose, Or.inl rfl⟩
      · split at h
        · cases h
        · obtain ⟨⟨pairs, left⟩, hentries, -⟩ := Option.map_eq_some_iff.mp h
          obtain ⟨more, hquote⟩ := exists_of_readEntries hentries
          rw [skipSpace_skipSpace] at hquote
          exact ⟨_, more, hbrace, hquote, Or.inr rfl⟩
    · -- a list, which is empty or has no depth left or is read
      split at h
      · cases h
      · split at h
        · cases h
        · simp at h
    · simp at h
    · exact absurd h readScalar_ne_map

/-- A text that is read as a map begins with a brace, after which the quote of a key or the closing
brace follows. -/
theorem exists_of_ofJson?_map (h : Value.ofJson? text = some (.map entries)) :
    ∃ rest c more, skipSpace text.toList = '\x7b' :: rest ∧ skipSpace rest = c :: more ∧
      (c = '\x7d' ∨ c = '"') := by
  unfold Value.ofJson? at h
  dsimp only at h
  split at h
  · next value after hvalue =>
    split at h
    · cases h
      exact exists_of_readValue_map hvalue
    · cases h
  · cases h

end OrmMapping.Json
