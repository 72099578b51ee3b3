/-!
# Segments of a text

Texts that are lists of parts with a separator between them: dotted class names and file paths.

* `splitOn`: the parts, empty ones included;
* `joinWith`: parts with a separator between them;
* `lastSegment`: what follows the last dot, the whole text if it has none.
-/

namespace OrmMapping.Text

/-- The parts of a character sequence between occurrences of `sep`; there is always one. -/
def splitChars (sep : Char) : List Char → List (List Char)
  | [] => [[]]
  | c :: rest =>
    if c == sep then
      [] :: splitChars sep rest
    else
      match splitChars sep rest with
      | [] => [[c]]
      | part :: parts => (c :: part) :: parts

/-- The parts of a text between occurrences of `sep`. -/
def splitOn (sep : Char) (s : String) : List String :=
  (splitChars sep s.toList).map String.ofList

theorem splitChars_of_not_mem {sep : Char} {cs : List Char} (h : sep ∉ cs) :
    splitChars sep cs = [cs] := by
  induction cs with
  | nil => rfl
  | cons c rest ih =>
    have hc : ¬ c = sep := fun heq => h (heq ▸ List.mem_cons_self)
    have hrest : sep ∉ rest := fun hmem => h (List.mem_cons_of_mem c hmem)
    simp [splitChars, hc, ih hrest]

/-- A text without separators is its only part. -/
theorem splitOn_of_not_mem {sep : Char} {s : String} (h : sep ∉ s.toList) :
    splitOn sep s = [s] := by
  simp [splitOn, splitChars_of_not_mem h]

/-- The parts of a character sequence hold no separator. -/
theorem not_mem_of_mem_splitChars {sep : Char} {cs part : List Char}
    (h : part ∈ splitChars sep cs) : sep ∉ part := by
  induction cs generalizing part with
  | nil =>
    rw [splitChars, List.mem_singleton] at h
    rw [h]
    exact List.not_mem_nil
  | cons c rest ih =>
    unfold splitChars at h
    split at h
    · rcases List.mem_cons.mp h with rfl | h
      · exact List.not_mem_nil
      · exact ih h
    · next hc =>
      have hne : ¬ sep = c := fun heq => hc (by simp [heq])
      split at h
      · rw [List.mem_singleton.mp h, List.mem_singleton]
        exact hne
      · next first others hrest =>
        rcases List.mem_cons.mp h with rfl | h
        · have hfirst : sep ∉ first := ih (hrest ▸ List.mem_cons_self)
          simp [hne, hfirst]
        · exact ih (hrest ▸ List.mem_cons_of_mem _ h)

/-- The parts hold nothing that is not in the character sequence. -/
theorem mem_of_mem_splitChars {sep c : Char} {cs part : List Char}
    (hpart : part ∈ splitChars sep cs) (hc : c ∈ part) : c ∈ cs := by
  induction cs generalizing part with
  | nil =>
    rw [splitChars, List.mem_singleton] at hpart
    exact hpart ▸ hc
  | cons d rest ih =>
    unfold splitChars at hpart
    split at hpart
    · rcases List.mem_cons.mp hpart with rfl | hpart
      · cases hc
      · exact List.mem_cons_of_mem d (ih hpart hc)
    · split at hpart
      · rw [List.mem_singleton.mp hpart, List.mem_singleton] at hc
        exact hc ▸ List.mem_cons_self
      · next first others hrest =>
        rcases List.mem_cons.mp hpart with rfl | hpart
        · -- the character is put in front of the first part
          rcases List.mem_cons.mp hc with rfl | hc
          · exact List.mem_cons_self
          · exact List.mem_cons_of_mem d (ih (hrest ▸ List.mem_cons_self) hc)
        · exact List.mem_cons_of_mem d (ih (hrest ▸ List.mem_cons_of_mem _ hpart) hc)

/-- What is put at the end without a separator goes to the last part. -/
theorem splitChars_append_of_not_mem {sep : Char} {ds : List Char} (h : sep ∉ ds)
    (cs : List Char) :
    ∃ front last, splitChars sep cs = front ++ [last] ∧
      splitChars sep (cs ++ ds) = front ++ [last ++ ds] := by
  induction cs with
  | nil => exact ⟨[], [], rfl, by simpa using splitChars_of_not_mem h⟩
  | cons c rest ih =>
    obtain ⟨front, last, hrest, hmore⟩ := ih
    by_cases hc : c = sep
    · exact ⟨[] :: front, last, by simp [splitChars, hc, hrest], by simp [splitChars, hc, hmore]⟩
    · cases front with
      | nil =>
        exact ⟨[], c :: last, by simp [splitChars, hc, hrest], by simp [splitChars, hc, hmore]⟩
      | cons first others =>
        exact ⟨(c :: first) :: others, last, by simp [splitChars, hc, hrest],
          by simp [splitChars, hc, hmore]⟩

/-- The parts with `sep` between neighbours. -/
def joinWith (sep : String) : List String → String
  | [] => ""
  | [part] => part
  | part :: parts => part ++ sep ++ joinWith sep parts

/-- Joining adds the separator alone. -/
theorem mem_joinWith_iff {c : Char} {sep : String} (hsep : c ∉ sep.toList) (parts : List String) :
    c ∈ (joinWith sep parts).toList ↔ ∃ part ∈ parts, c ∈ part.toList := by
  induction parts with
  | nil => simp [joinWith]
  | cons part rest ih =>
    cases rest with
    | nil => simp [joinWith]
    | cons next others =>
      simp only [joinWith, String.toList_append, List.mem_append, hsep, or_false, ih,
        List.mem_cons, exists_eq_or_imp]

/-- With more parts the text is longer. -/
theorem utf8ByteSize_joinWith_le (sep : String) (parts more : List String) :
    (joinWith sep parts).utf8ByteSize ≤ (joinWith sep (parts ++ more)).utf8ByteSize := by
  induction parts with
  | nil => exact Nat.zero_le _
  | cons part rest ih =>
    cases rest with
    | nil =>
      cases more with
      | nil => exact Nat.le_refl _
      | cons next others =>
        simp only [joinWith, List.cons_append, List.nil_append, String.utf8ByteSize_append]
        omega
    | cons next others =>
      simp only [joinWith, List.cons_append, String.utf8ByteSize_append] at ih ⊢
      omega

/-- What follows the last dot of a character sequence. -/
def lastSegmentChars (cs : List Char) : List Char :=
  (cs.reverse.takeWhile (· != '.')).reverse

/-- What follows the last dot of a dotted name. -/
def lastSegment (s : String) : String :=
  String.ofList (lastSegmentChars s.toList)

end OrmMapping.Text
