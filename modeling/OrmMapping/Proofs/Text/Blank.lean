import Mathlib.Data.List.TakeWhile
import OrmMapping.Text.Blank
import OrmMapping.Text.Segments

/-!
# Texts that are not blank

A text that is more than space stays so when the space at its ends is taken away and when other
texts are put around it. Trimming stops at the first and at the last character that is no space.

* `isBlank_eq_false_iff`: a character that is no space;
* `isBlank_trim`, `isBlank_joinWith`: what keeps such a character;
* `trimChars_append`, `exists_append_trimChars`: what trimming takes away;
* `HasInkedEnds.trimChars_append`: where it stops;
* `hasInkedEnds_trimChars`, `HasInkedEnds.joinWith`: trimmed texts, alone and joined.
-/

namespace OrmMapping.Text

variable {c : Char} {cs : List Char} {s : String}

/-- A text is not blank exactly when some character of it is no space. -/
theorem isBlank_eq_false_iff : isBlank s = false ↔ ∃ c ∈ s.toList, isBlankChar c = false := by
  simp [isBlank]

/-! ## Ends and parts -/

/-- If `c` is no space, then dropping space from the front of `cs` keeps it. -/
theorem mem_dropWhile_isBlankChar (h : c ∈ cs) (hc : isBlankChar c = false) :
    c ∈ cs.dropWhile isBlankChar := by
  induction cs with
  | nil => exact h
  | cons d rest ih =>
    rw [List.dropWhile_cons]
    split
    · next hd =>
      rcases List.mem_cons.mp h with rfl | hrest
      · rw [hc] at hd
        cases hd
      · exact ih hrest
    · exact h

/-- If `c` is no space, then trimming `cs` keeps it. -/
theorem mem_trimChars (h : c ∈ cs) (hc : isBlankChar c = false) : c ∈ trimChars cs := by
  have hfront : c ∈ (cs.dropWhile isBlankChar).reverse :=
    List.mem_reverse.mpr (mem_dropWhile_isBlankChar h hc)
  exact List.mem_reverse.mpr (mem_dropWhile_isBlankChar hfront hc)

/-- Trimming does not make a text blank. -/
theorem isBlank_trim (h : isBlank s = false) : isBlank (trim s) = false := by
  obtain ⟨c, hmem, hc⟩ := isBlank_eq_false_iff.mp h
  refine isBlank_eq_false_iff.mpr ⟨c, ?_, hc⟩
  rw [toList_trim]
  exact mem_trimChars hmem hc

/-- A text that is not blank stays so when `t` is put after it. -/
theorem isBlank_append_left (t : String) (h : isBlank s = false) : isBlank (s ++ t) = false := by
  obtain ⟨c, hmem, hc⟩ := isBlank_eq_false_iff.mp h
  refine isBlank_eq_false_iff.mpr ⟨c, ?_, hc⟩
  rw [String.toList_append]
  exact List.mem_append_left _ hmem

/-- A text that is not blank stays so when `t` is put before it. -/
theorem isBlank_append_right (t : String) (h : isBlank s = false) : isBlank (t ++ s) = false := by
  obtain ⟨c, hmem, hc⟩ := isBlank_eq_false_iff.mp h
  refine isBlank_eq_false_iff.mpr ⟨c, ?_, hc⟩
  rw [String.toList_append]
  exact List.mem_append_right _ hmem

/-- A joined text is not blank if its first part is not, whatever `sep` and the other parts are. -/
theorem isBlank_joinWith (sep : String) (parts : List String) (h : isBlank s = false) :
    isBlank (joinWith sep (s :: parts)) = false := by
  cases parts with
  | nil => exact h
  | cons next others => exact isBlank_append_left _ (isBlank_append_left _ h)

/-! ## Trimming -/

section Trimming

variable {front back : List Char} (hfront : ∀ c ∈ front, isBlankChar c = true)
  (hback : ∀ c ∈ back, isBlankChar c = true)

/-- Dropping space from the front of `cs ++ back`, where `back` is space: either everything goes, or
`back` stays as a whole. -/
theorem dropWhile_append_blank (hback : ∀ c ∈ back, isBlankChar c = true) (cs : List Char) :
    (cs ++ back).dropWhile isBlankChar = [] ∧ cs.dropWhile isBlankChar = [] ∨
      (cs ++ back).dropWhile isBlankChar = cs.dropWhile isBlankChar ++ back := by
  rw [List.dropWhile_append]
  split
  · next hempty =>
    refine Or.inl ⟨?_, List.isEmpty_iff.mp hempty⟩
    rw [List.dropWhile_eq_nil_iff]
    exact hback
  · exact Or.inr rfl

include hfront hback in
/-- Space around a text goes when the text is trimmed. -/
theorem trimChars_append (cs : List Char) : trimChars (front ++ cs ++ back) = trimChars cs := by
  rw [List.append_assoc, trimChars, List.dropWhile_append_of_pos hfront]
  -- either all of `cs` is space and nothing is left, or `back` is left to be dropped from the right
  rcases dropWhile_append_blank hback cs with ⟨hall, hcs⟩ | hsome
  · rw [hall, trimChars, hcs]
  · rw [hsome, trimChars, trimRightChars, List.reverse_append,
      List.dropWhile_append_of_pos fun c hc => hback c (List.mem_reverse.mp hc), trimRightChars]

/-- A text is what is left of it when it is trimmed, with space around it. -/
theorem exists_append_trimChars (cs : List Char) :
    ∃ front back, (∀ c ∈ front, isBlankChar c = true) ∧ (∀ c ∈ back, isBlankChar c = true) ∧
      cs = front ++ trimChars cs ++ back := by
  refine ⟨cs.takeWhile isBlankChar,
    ((cs.dropWhile isBlankChar).reverse.takeWhile isBlankChar).reverse,
    fun c hc => List.mem_takeWhile_imp hc,
    fun c hc => List.mem_takeWhile_imp (List.mem_reverse.mp hc), ?_⟩
  rw [List.append_assoc, trimChars, trimRightChars, ← List.reverse_append,
    List.takeWhile_append_dropWhile, List.reverse_reverse, List.takeWhile_append_dropWhile]

/-- A trimmed text is a stretch of what it was. -/
theorem trimChars_isInfix (cs : List Char) : trimChars cs <:+: cs := by
  obtain ⟨front, back, -, -, hcs⟩ := exists_append_trimChars cs
  exact ⟨front, back, hcs.symm⟩

/-- Trimming twice is trimming once. -/
theorem trimChars_trimChars (cs : List Char) : trimChars (trimChars cs) = trimChars cs := by
  obtain ⟨front, back, hfront, hback, hcs⟩ := exists_append_trimChars cs
  -- what is trimmed a second time is `trimChars cs` with the space of the first time around it
  have hsame : trimChars cs = trimChars (trimChars cs) := by
    rw [← trimChars_append hfront hback (trimChars cs), ← hcs]
  exact hsame.symm

/-- Trimming twice is trimming once, for texts. -/
theorem trim_trim (s : String) : trim (trim s) = trim s := by
  rw [trim, toList_trim, trimChars_trimChars]
  rfl

/-- If `c` is no space, then `c :: cs` is trimmed on the right only. -/
theorem trimChars_cons (hc : isBlankChar c = false) (cs : List Char) :
    trimChars (c :: cs) = c :: trimRightChars cs := by
  rw [trimChars, List.dropWhile_cons_of_neg (by simp [hc]), trimRightChars, trimRightChars,
    List.reverse_cons, List.dropWhile_append]
  split
  · next hempty => simp [List.isEmpty_iff.mp hempty, hc]
  · simp

/-- If `first` and `last` are no space, then a text between them is trimmed already. -/
theorem trimChars_of_ends {first last : Char} (hfirst : isBlankChar first = false)
    (hlast : isBlankChar last = false) (cs : List Char) :
    trimChars (first :: (cs ++ [last])) = first :: (cs ++ [last]) := by
  simp [trimChars, trimRightChars, hfirst, hlast]

/-- A text that begins and ends with something else than space. -/
structure HasInkedEnds (cs : List Char) : Prop where
  first : ∃ c ∈ cs.head?, isBlankChar c = false
  last : ∃ c ∈ cs.getLast?, isBlankChar c = false

/-- A text without any space has inked ends, unless it is empty. -/
theorem hasInkedEnds_of_forall (hne : cs ≠ []) (h : ∀ c ∈ cs, isBlankChar c = false) :
    HasInkedEnds cs :=
  ⟨⟨cs.head hne, List.head?_eq_some_head hne, h _ (List.head_mem hne)⟩,
    ⟨cs.getLast hne, List.getLast?_eq_some_getLast hne, h _ (List.getLast_mem hne)⟩⟩

/-- If `cs` has inked ends, then `between` and a last character `c` that is no space may follow. -/
theorem HasInkedEnds.append_concat (h : HasInkedEnds cs) (hc : isBlankChar c = false)
    (between : List Char) : HasInkedEnds (cs ++ (between ++ [c])) := by
  obtain ⟨first, hfirst, hinked⟩ := h.first
  refine ⟨⟨first, ?_, hinked⟩, ⟨c, ?_, hc⟩⟩
  · rw [List.head?_append, hfirst]
    rfl
  · rw [← List.append_assoc, List.getLast?_concat]
    rfl

include hback in
/-- Trimming stops at the ends of `cs`: of `front ++ cs ++ back`, the space that `front` begins with
goes, and `back`, which is space. -/
theorem HasInkedEnds.trimChars_append (h : HasInkedEnds cs) (front : List Char) :
    trimChars (front ++ cs ++ back) = front.dropWhile isBlankChar ++ cs := by
  obtain ⟨⟨first, hfirst, hfirst'⟩, ⟨last, hlast, hlast'⟩⟩ := h
  obtain ⟨rest, rfl⟩ := List.head?_eq_some_iff.mp hfirst
  obtain ⟨others, hothers⟩ := List.getLast?_eq_some_iff.mp hlast
  -- from the left, dropping stops at `first` at the latest
  have hleft : (front ++ (first :: rest ++ back)).dropWhile isBlankChar =
      front.dropWhile isBlankChar ++ (first :: rest ++ back) := by
    rw [List.dropWhile_append]
    split
    · next hempty => simp [List.isEmpty_iff.mp hempty, hfirst']
    · rfl
  -- from the right, exactly `back` is dropped, as `last` is no space
  have hright : ((first :: rest) ++ back).reverse.dropWhile isBlankChar =
      (first :: rest).reverse := by
    rw [List.reverse_append,
      List.dropWhile_append_of_pos fun c hc => hback c (List.mem_reverse.mp hc), hothers]
    simp [hlast']
  rw [List.append_assoc, trimChars, hleft, trimRightChars, List.reverse_append,
    List.dropWhile_append, hright]
  simp

/-- A text with inked ends is trimmed already. -/
theorem HasInkedEnds.trimChars_eq (h : HasInkedEnds cs) : trimChars cs = cs := by
  have hnothing : ∀ c ∈ ([] : List Char), isBlankChar c = true := by simp
  simpa using h.trimChars_append hnothing []

/-- A text without any space is trimmed already, also when it is empty. -/
theorem trimChars_of_forall (h : ∀ c ∈ cs, isBlankChar c = false) : trimChars cs = cs := by
  by_cases hempty : cs = []
  · rw [hempty]
    rfl
  · exact (hasInkedEnds_of_forall hempty h).trimChars_eq

end Trimming

/-! ## Trimmed texts -/

/-- Dropping space stops at a character that is no space, where there is one. -/
theorem exists_cons_dropWhile (h : c ∈ cs) (hc : isBlankChar c = false) :
    ∃ first rest, cs.dropWhile isBlankChar = first :: rest ∧ isBlankChar first = false := by
  have hkept := mem_dropWhile_isBlankChar h hc
  have hhead := List.head?_dropWhile_not isBlankChar cs
  cases hdropped : cs.dropWhile isBlankChar with
  | nil =>
    rw [hdropped] at hkept
    cases hkept
  | cons first rest =>
    rw [hdropped] at hhead
    exact ⟨first, rest, rfl, by simpa using hhead⟩

/-- What is left of a text that is more than space begins and ends with something else. -/
theorem hasInkedEnds_trimChars (h : c ∈ cs) (hc : isBlankChar c = false) :
    HasInkedEnds (trimChars cs) := by
  obtain ⟨first, rest, hfront, hfirst⟩ := exists_cons_dropWhile h hc
  have hkept : first ∈ (first :: rest).reverse := List.mem_reverse.mpr List.mem_cons_self
  obtain ⟨last, others, hback, hlast⟩ := exists_cons_dropWhile hkept hfirst
  have hcut : trimChars cs = trimRightChars (first :: rest) := by rw [trimChars, hfront]
  constructor
  · -- the front is dropped already, so that trimming the rest changes only its end
    have hsame : trimRightChars (first :: rest) = trimChars (first :: rest) := by
      rw [trimChars, List.dropWhile_cons_of_neg (by simp [hfirst])]
    rw [hcut, hsame, trimChars_cons hfirst]
    exact ⟨first, rfl, hfirst⟩
  · rw [hcut, trimRightChars, hback, List.reverse_cons, List.getLast?_concat]
    exact ⟨last, rfl, hlast⟩

/-- If `s` is not blank, then what trimming leaves of it has inked ends. -/
theorem hasInkedEnds_trim (h : isBlank s = false) : HasInkedEnds (trim s).toList := by
  obtain ⟨c, hmem, hc⟩ := isBlank_eq_false_iff.mp h
  rw [toList_trim]
  exact hasInkedEnds_trimChars hmem hc

/-- A text with inked ends is trimmed already, as a `String`. -/
theorem trim_of_hasInkedEnds (h : HasInkedEnds s.toList) : trim s = s := by
  rw [trim, h.trimChars_eq, String.ofList_toList]

/-- If `cs` and `ds` have inked ends, then so has `cs ++ (between ++ ds)`: `cs` gives the first
character and `ds` the last. -/
theorem HasInkedEnds.append {ds : List Char} (h : HasInkedEnds cs) (h' : HasInkedEnds ds)
    (between : List Char) : HasInkedEnds (cs ++ (between ++ ds)) := by
  obtain ⟨last, hlast, hinked⟩ := h'.last
  obtain ⟨others, rfl⟩ := List.getLast?_eq_some_iff.mp hlast
  rw [← List.append_assoc between]
  exact h.append_concat hinked (between ++ others)

/-- Parts with inked ends give a joined text with inked ends, whatever `sep` is; there has to be a
part. -/
theorem HasInkedEnds.joinWith (sep : String) {parts : List String} (hne : parts ≠ [])
    (h : ∀ part ∈ parts, HasInkedEnds part.toList) :
    HasInkedEnds (joinWith sep parts).toList := by
  induction parts with
  | nil => exact absurd rfl hne
  | cons part rest ih =>
    obtain ⟨hpart, hrest⟩ := List.forall_mem_cons.mp h
    -- the last part has no separator after it
    cases rest with
    | nil => exact hpart
    | cons next others =>
      have hjoined := ih (List.cons_ne_nil next others) hrest
      rw [Text.joinWith, String.toList_append, String.toList_append, List.append_assoc]
      · exact hpart.append hjoined sep.toList
      · exact List.cons_ne_nil next others

end OrmMapping.Text
