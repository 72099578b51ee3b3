import Mathlib.Data.List.Forall2
import OrmMapping.Proofs.Text.Blank
import OrmMapping.Proofs.Text.WordChar

/-!
# How pair notation falls into parts

A text is cut at the commas outside quotes. What leaves the reader outside quotes, and has no such
comma, stays in one part; and the space around a part does not change what is read from it.

* `Whole`: characters that stay in one part, with the ways to build them;
* `splitPairs_intercalate`: parts that were put together with commas are found again;
* `readPair_append`, `readParts_append`: space at the ends of a part and of a whole text.
-/

namespace OrmMapping.PairNotation

open Text (isBlankChar trimChars)

variable {c mark : Char} {cs ds part front back : List Char} {parts chunks : List (List Char)}
  {quote : Option Char}

/-! ## Parts -/

/-- Puts characters in front of the first part. -/
def prepend (cs : List Char) (parts : List (List Char)) : List (List Char) :=
  cs.foldr consFirst parts

/-- Characters that are put in front go to the first part. -/
@[simp] theorem prepend_cons (cs part : List Char) (parts : List (List Char)) :
    prepend cs (part :: parts) = (cs ++ part) :: parts := by
  induction cs with
  | nil => rfl
  | cons c rest ih =>
    rw [prepend, List.foldr_cons, ← prepend, ih]
    rfl

/-- Characters that the reader passes in one part: it is outside quotes again after them. -/
def Whole (cs : List Char) : Prop :=
  ∀ rest, splitPairs none (cs ++ rest) = prepend cs (splitPairs none rest)

namespace Whole

/-- Characters that are passed whole may follow one another. -/
theorem append (hcs : Whole cs) (hds : Whole ds) : Whole (cs ++ ds) := by
  intro rest
  rw [List.append_assoc, hcs, hds, prepend, prepend, prepend, List.foldr_append]

/-- Characters without commas and quotes are passed whole. -/
theorem of_plain (h : ∀ c ∈ cs, c ≠ ',' ∧ c ≠ '\'' ∧ c ≠ '"') : Whole cs := by
  intro rest
  -- on the characters: none of them changes what the reader waits for
  induction cs with
  | nil => rfl
  | cons c more ih =>
    obtain ⟨⟨hcomma, hsingle, hdouble⟩, hmore⟩ := List.forall_mem_cons.mp h
    have hrest := ih hmore
    rw [List.cons_append, splitPairs]
    simp only [beq_iff_eq, hcomma, if_false, Bool.or_self, Bool.false_eq_true,
      beq_eq_false_iff_ne.mpr hsingle, beq_eq_false_iff_ne.mpr hdouble, hrest]
    rfl

/-- Space is passed whole. -/
theorem of_blank (h : ∀ c ∈ cs, isBlankChar c = true) : Whole cs := by
  refine of_plain fun c hc => ⟨?_, ?_, ?_⟩ <;>
  · rintro rfl
    exact absurd (h _ hc) (by decide)

/-- Inside quotes, all up to the mark that opened them goes to one part, commas included. -/
theorem splitPairs_open (h : ∀ c ∈ cs, c ≠ mark) (rest : List Char) :
    splitPairs (some mark) (cs ++ mark :: rest) =
      prepend (cs ++ [mark]) (splitPairs none rest) := by
  induction cs with
  | nil => simp [splitPairs, prepend]
  | cons c more ih =>
    obtain ⟨hc, hmore⟩ := List.forall_mem_cons.mp h
    rw [List.cons_append, splitPairs]
    simp only [beq_eq_false_iff_ne.mpr hc, Bool.false_eq_true, if_false, ih hmore]
    rfl

/-- A text in quotes is passed whole, whatever stands between the marks but the mark itself. -/
theorem of_quoted (hmark : mark = '\'' ∨ mark = '"') (h : ∀ c ∈ cs, c ≠ mark) :
    Whole (mark :: (cs ++ [mark])) := by
  intro rest
  have hopen : splitPairs none (mark :: (cs ++ mark :: rest)) =
      consFirst mark (splitPairs (some mark) (cs ++ mark :: rest)) := by
    rcases hmark with rfl | rfl <;> rfl
  rw [List.cons_append, List.append_assoc, List.singleton_append, hopen, splitPairs_open h]
  rfl

end Whole

/-- Characters that are passed whole are one part. -/
theorem splitPairs_of_whole (h : Whole cs) : splitPairs none cs = [cs] := by
  simpa [splitPairs] using h []

/-- If all `chunks` are passed whole, then the parts of a text with commas between them are the
chunks. -/
theorem splitPairs_intercalate (hchunks : chunks ≠ []) (h : ∀ chunk ∈ chunks, Whole chunk) :
    splitPairs none ([','].intercalate chunks) = chunks := by
  induction chunks with
  | nil => exact absurd rfl hchunks
  | cons chunk rest ih =>
    obtain ⟨hchunk, hrest⟩ := List.forall_mem_cons.mp h
    cases rest with
    | nil => simpa using splitPairs_of_whole hchunk
    | cons next others =>
      -- after a chunk the reader is outside quotes, so the comma begins a new part
      have hcomma : splitPairs none (',' :: [','].intercalate (next :: others)) =
          [] :: next :: others :=
        congrArg ([] :: ·) (ih (List.cons_ne_nil _ _) hrest)
      rw [List.intercalate_cons_cons, List.append_assoc, List.singleton_append, hchunk, hcomma,
        prepend_cons, List.append_nil]

/-! ## Space around a part -/

/-- The value that is read, without the space at its ends. -/
def readTrimmed (cs : List Char) : Option (List Char) :=
  (readValue cs).map trimChars

/-- Space after a quoted value does not change what `readQuoted` gives. -/
theorem readQuoted_append_blank (hmark : isBlankChar mark = false)
    (hback : ∀ c ∈ back, isBlankChar c = true) (cs : List Char) :
    readQuoted mark (cs ++ back) = readQuoted mark cs := by
  cases cs with
  | nil =>
    cases back with
    | nil => rfl
    | cons c rest =>
      have hc : c ≠ mark := by
        rintro rfl
        rw [hback c List.mem_cons_self] at hmark
        cases hmark
      simp [readQuoted, hc]
  | cons c rest =>
    have hunmarked : ∀ c ∈ back, (c != mark) = true := by
      intro c hc
      rw [bne_iff_ne]
      rintro rfl
      rw [hback c hc] at hmark
      cases hmark
    have hall : back.all isBlankChar = true := List.all_eq_true.mpr hback
    by_cases hc : c = mark
    · -- space has no mark, so the search for the closing one ends where it did
      have hnone : back.dropWhile (· != mark) = [] := List.dropWhile_eq_nil_iff.mpr hunmarked
      rw [List.cons_append, readQuoted, readQuoted, List.dropWhile_append,
        List.takeWhile_append, hnone]
      cases hrest : rest.dropWhile (· != mark) with
      | nil => simp
      | cons closing after =>
        -- a mark is found, so what stands before it is not all there is
        have hlength : ¬ (rest.takeWhile (· != mark)).length = rest.length := by
          intro heq
          have hsum := congrArg List.length
            (List.takeWhile_append_dropWhile (p := (· != mark)) (l := rest))
          rw [List.length_append, hrest, List.length_cons] at hsum
          omega
        simp [hc, hall, hlength]
    · simp [readQuoted, hc]

/-- Space after a value, quoted or not, does not change what is read of it. -/
theorem readTrimmed_append_blank (hback : ∀ c ∈ back, isBlankChar c = true) (cs : List Char) :
    readTrimmed (cs ++ back) = readTrimmed cs := by
  -- without quotes the value is trimmed, and space brings no comma and no brace
  have hbare : (readBare (cs ++ back)).map trimChars = (readBare cs).map trimChars := by
    have hnone : (back.any fun c => c == ',' || c == '\x7d') = false := by
      rw [List.any_eq_false]
      intro c hc hmark
      simp only [Bool.or_eq_true, beq_iff_eq] at hmark
      rcases hmark with rfl | rfl <;> exact absurd (hback _ hc) (by decide)
    have htrim : trimChars (cs ++ back) = trimChars cs :=
      Text.trimChars_append (List.forall_mem_nil _) hback cs
    rw [readBare, readBare, List.any_append, hnone, Bool.or_false]
    split
    · rfl
    · exact congrArg some htrim
  rw [readTrimmed, readTrimmed, readValue, readValue,
    readQuoted_append_blank (by decide) hback, readQuoted_append_blank (by decide) hback]
  cases readQuoted '\'' cs with
  | some value => rfl
  | none =>
    cases readQuoted '"' cs with
    | some value => rfl
    | none => simpa using hbare

/-- What follows a name: the separator, and the value after it. -/
def readRest (name : List Char) : List Char → Option (String × String)
  | [] => none
  | separator :: rest =>
    if separator == '=' || separator == ':' then
      (readTrimmed (rest.dropWhile isBlankChar)).map fun value =>
        (String.ofList name, String.ofList value)
    else
      none

/-- `readPair` in steps: space, a name, space again, and what `readRest` makes of the rest. -/
theorem readPair_eq (cs : List Char) :
    readPair cs =
      let start := cs.dropWhile isBlankChar
      if (start.takeWhile isNameChar).isEmpty then none
      else readRest (start.takeWhile isNameChar)
        ((start.dropWhile isNameChar).dropWhile isBlankChar) := by
  simp only [readPair]
  split
  · rfl
  · cases ((cs.dropWhile isBlankChar).dropWhile isNameChar).dropWhile isBlankChar with
    | nil => rfl
    | cons separator rest => simp [readRest, readTrimmed, Function.comp_def]

/-- Space at the end does not change what is read after the name. -/
theorem readRest_append_blank (hback : ∀ c ∈ back, isBlankChar c = true) (name cs : List Char) :
    readRest name ((cs ++ back).dropWhile isBlankChar) =
      readRest name (cs.dropWhile isBlankChar) := by
  rcases Text.dropWhile_append_blank hback cs with ⟨hall, hcs⟩ | hsome
  · rw [hall, hcs]
  · rw [hsome]
    cases cs.dropWhile isBlankChar with
    | nil =>
      cases back with
      | nil => rfl
      | cons c rest =>
        have hc : (c == '=' || c == ':') = false := by
          by_contra hmark
          simp only [Bool.not_eq_false, Bool.or_eq_true, beq_iff_eq] at hmark
          rcases hmark with rfl | rfl <;> exact absurd (hback _ List.mem_cons_self) (by decide)
        simp [readRest, hc]
    | cons separator rest =>
      rw [List.cons_append, readRest, readRest]
      rcases Text.dropWhile_append_blank hback rest with ⟨hall, hrest⟩ | hmore
      · rw [hall, hrest]
      · rw [hmore, readTrimmed_append_blank hback]

/-- Space `front` and `back` around a pair does not change what is read of it. -/
theorem readPair_append (hfront : ∀ c ∈ front, isBlankChar c = true)
    (hback : ∀ c ∈ back, isBlankChar c = true) (cs : List Char) :
    readPair (front ++ cs ++ back) = readPair cs := by
  -- no character of `back` belongs to a name, so the name is the same
  have hunnamed : ∀ c ∈ back, isNameChar c = false := by
    intro c hc
    by_contra hname
    have hinked := not_blank_of_isNameChar (by simpa using hname)
    rw [hback c hc] at hinked
    cases hinked
  have htake : back.takeWhile isNameChar = [] := by
    cases back with
    | nil => rfl
    | cons c rest => simp [hunnamed c List.mem_cons_self]
  have hdrop : back.dropWhile isNameChar = back := by
    cases back with
    | nil => rfl
    | cons c rest => simp [hunnamed c List.mem_cons_self]
  rw [readPair_eq, readPair_eq, List.append_assoc, List.dropWhile_append_of_pos hfront]
  rcases Text.dropWhile_append_blank hback cs with ⟨hall, hcs⟩ | hsome
  · rw [hall, hcs]
  · have hname : (cs.dropWhile isBlankChar ++ back).takeWhile isNameChar =
        (cs.dropWhile isBlankChar).takeWhile isNameChar := by
      rw [List.takeWhile_append, htake, List.append_nil]
      split
      · next hlength => exact (List.takeWhile_prefix _).eq_of_length hlength |>.symm
      · rfl
    have hrest : (cs.dropWhile isBlankChar ++ back).dropWhile isNameChar =
        (cs.dropWhile isBlankChar).dropWhile isNameChar ++ back := by
      rw [List.dropWhile_append, hdrop]
      split
      · next hempty => rw [List.isEmpty_iff.mp hempty, List.nil_append]
      · rfl
    simp only [hsome, hname, hrest, readRest_append_blank hback]

/-! ## Space around a text -/

/-- The pairs that the parts give; parts of space alone are passed over. -/
def readParts (parts : List (List Char)) : Option (List (String × String)) :=
  (parts.filter fun part => !part.all isBlankChar).mapM readPair

/-- The second has space around what the first is. -/
def Padded (part padded : List Char) : Prop :=
  ∃ front back, (∀ c ∈ front, isBlankChar c = true) ∧ (∀ c ∈ back, isBlankChar c = true) ∧
    padded = front ++ part ++ back

/-- If each of `padded` is one of `parts` with space around it, then the same pairs are read. -/
theorem readParts_of_padded {padded : List (List Char)} (h : List.Forall₂ Padded parts padded) :
    readParts padded = readParts parts := by
  induction h with
  | nil => rfl
  | @cons part widened rest others hpart _ ih =>
    obtain ⟨front, back, hfront, hback, rfl⟩ := hpart
    have hblank : (front ++ part ++ back).all isBlankChar = part.all isBlankChar := by
      simp [List.all_append, List.all_eq_true.mpr hfront, List.all_eq_true.mpr hback]
    unfold readParts at ih ⊢
    rw [List.filter_cons, List.filter_cons, hblank]
    split
    · rw [List.mapM_cons, List.mapM_cons, ih, readPair_append hfront hback]
    · exact ih

/-- A text without a comma is one part, inside quotes and outside. -/
theorem splitPairs_of_comma_not_mem (h : ',' ∉ cs) : splitPairs quote cs = [cs] := by
  induction cs generalizing quote with
  | nil => cases quote <;> rfl
  | cons c rest ih =>
    have hc : c ≠ ',' := fun heq => h (heq ▸ List.mem_cons_self)
    have hrest : ',' ∉ rest := fun hmem => h (List.mem_cons_of_mem c hmem)
    cases quote with
    | none => simp [splitPairs, hc, ih hrest, consFirst]
    | some mark => simp [splitPairs, ih hrest, consFirst]

/-- Putting `c` in front of the parts does not touch what is put at the end of the last one. -/
theorem consFirst_append_last (c : Char) (init : List (List Char)) (last : List Char) :
    ∃ init' last', ∀ ds, consFirst c (init ++ [last ++ ds]) = init' ++ [last' ++ ds] := by
  cases init with
  | nil => exact ⟨[], c :: last, fun ds => rfl⟩
  | cons first others => exact ⟨(c :: first) :: others, last, fun ds => rfl⟩

/-- If `back` is space, then it goes to the last part and changes no other one. -/
theorem splitPairs_append_blank (quote : Option Char) (hback : ∀ c ∈ back, isBlankChar c = true)
    (cs : List Char) : ∃ init last, splitPairs quote cs = init ++ [last] ∧
      splitPairs quote (cs ++ back) = init ++ [last ++ back] := by
  -- what holds of the parts of `rest` holds of them with `c` in front
  have hput (c : Char) (quote : Option Char) {rest : List Char}
      (h : ∃ init last, splitPairs quote rest = init ++ [last] ∧
        splitPairs quote (rest ++ back) = init ++ [last ++ back]) :
      ∃ init last, consFirst c (splitPairs quote rest) = init ++ [last] ∧
        consFirst c (splitPairs quote (rest ++ back)) = init ++ [last ++ back] := by
    obtain ⟨init, last, hrest, hmore⟩ := h
    obtain ⟨init', last', hfirst⟩ := consFirst_append_last c init last
    exact ⟨init', last', by simpa [hrest] using hfirst [], by rw [hmore, hfirst]⟩
  -- on the text, with the quotes that are open at each place
  induction cs generalizing quote with
  | nil =>
    have hcomma : ',' ∉ back := fun hmem => absurd (hback _ hmem) (by decide)
    exact ⟨[], [], by cases quote <;> rfl, splitPairs_of_comma_not_mem hcomma⟩
  | cons c rest ih =>
    rw [List.cons_append]
    cases quote with
    | none =>
      rw [splitPairs, splitPairs]
      split
      · obtain ⟨init, last, hrest, hmore⟩ := ih none
        exact ⟨[] :: init, last, by rw [hrest]; rfl, by rw [hmore]; rfl⟩
      · exact hput c _ (ih _)
    | some mark =>
      rw [splitPairs, splitPairs]
      exact hput c _ (ih _)

/-- Space `front` and `back` around a text does not change what is read of it. -/
theorem readParts_append (hfront : ∀ c ∈ front, isBlankChar c = true)
    (hback : ∀ c ∈ back, isBlankChar c = true) (cs : List Char) :
    readParts (splitPairs none (front ++ cs ++ back)) = readParts (splitPairs none cs) := by
  obtain ⟨init, last, hcs, hmore⟩ := splitPairs_append_blank none hback cs
  rw [List.append_assoc, Whole.of_blank hfront, hcs, hmore]
  refine readParts_of_padded ?_
  cases init with
  | nil =>
    rw [List.nil_append, List.nil_append, prepend_cons, ← List.append_assoc]
    exact .cons ⟨front, back, hfront, hback, rfl⟩ .nil
  | cons first others =>
    rw [List.cons_append, List.cons_append, prepend_cons]
    have hsame : List.Forall₂ Padded others others :=
      List.forall₂_same.mpr fun part _ => ⟨[], [], by simp, by simp, by simp⟩
    refine .cons ⟨front, [], hfront, by simp, by simp⟩ (List.rel_append hsame (.cons ?_ .nil))
    exact ⟨[], back, by simp, hback, by simp⟩

end OrmMapping.PairNotation
