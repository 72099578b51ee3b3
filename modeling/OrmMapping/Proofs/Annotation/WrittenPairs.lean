import OrmMapping.Annotation.Basic
import OrmMapping.Proofs.Annotation.PairNotation
import OrmMapping.Proofs.Json.Maps

/-!
# Parameters written as pairs

Pairs may be written in many ways: with either separator, with values quoted or not, in braces or
not, and with space in most places. The parameters that are read are the pairs themselves, and
nothing is reported.

* `WrittenPair`, `WrittenPairs`: a pair and a text of pairs, as they are written;
* `readPair_chars`: a pair is read back;
* `not_map_of_ofJson?`: no such text is taken for JSON;
* `parameters_eq`, `parameters_of_writtenPairs`: the parameters that are read.
-/

namespace OrmMapping

open PairNotation (isNameChar)
open Text (isBlankChar trimChars)

variable {c : Char} {cs : List Char}

/-! ## As written -/

/-- How a value stands in a pair. -/
inductive Quoting where
  | single
  | double
  | bare
deriving DecidableEq, Repr

namespace Quoting

/-- The characters that a value may have when it stands so. -/
def admits : Quoting → Char → Bool
  | .single, c => c != '\''
  | .double, c => c != '"'
  | .bare, c => c != ',' && c != '\x7d' && c != '\'' && c != '"'

/-- The value as it stands. -/
def write : Quoting → List Char → List Char
  | .single, cs => '\'' :: (cs ++ ['\''])
  | .double, cs => '"' :: (cs ++ ['"'])
  | .bare, cs => cs

end Quoting

/-- Any number of characters of space. -/
abbrev Space := {cs : List Char // ∀ c ∈ cs, isBlankChar c = true}

/-- Space of some characters. -/
def Space.of (cs : List Char) (h : cs.all isBlankChar = true := by rfl) : Space :=
  ⟨cs, List.all_eq_true.mp h⟩

/-- A pair of name and value as written. -/
structure WrittenPair where
  name : List Char
  value : List Char
  quoting : Quoting
  separator : Char := '='
  front : Space := .of []
  afterName : Space := .of []
  beforeValue : Space := .of []
  back : Space := .of []
  name_ne_nil : name ≠ []
  isNameChar_of_mem : ∀ c ∈ name, isNameChar c = true
  separates : separator = '=' ∨ separator = ':'
  admits_of_mem : ∀ c ∈ value, quoting.admits c = true

namespace WrittenPair

/-- The pair that is written: the space at the ends of the value does not count. -/
def pair (w : WrittenPair) : String × String :=
  (String.ofList w.name, String.ofList (trimChars w.value))

/-- The pair without the space around it. -/
def core (w : WrittenPair) : List Char :=
  w.name ++ (w.afterName ++ w.separator :: (w.beforeValue ++ w.quoting.write w.value))

/-- All that is written. -/
def chars (w : WrittenPair) : List Char :=
  w.front ++ w.core ++ w.back

end WrittenPair

/-- A text of pairs with commas between them. -/
structure WrittenPairs where
  pairs : List WrittenPair
  braced : Bool
  front : Space := .of []
  back : Space := .of []

namespace WrittenPairs

/-- The pairs with commas between them. -/
def body (w : WrittenPairs) : List Char :=
  [','].intercalate (w.pairs.map (·.chars))

/-- The pairs with commas between them, in braces if there are any. -/
def enclosed (w : WrittenPairs) : List Char :=
  if w.braced then '\x7b' :: (w.body ++ ['\x7d']) else w.body

/-- The whole text. -/
def text (w : WrittenPairs) : String :=
  String.ofList (w.front ++ w.enclosed ++ w.back)

end WrittenPairs

/-! ## Parts -/

namespace PairNotation

/-- A character of names is different from one that is not. -/
theorem ne_of_isNameChar {d : Char} (hd : isNameChar d = false) (hc : isNameChar c = true) :
    c ≠ d := by
  rintro rfl
  rw [hd] at hc
  cases hc

/-- A name is passed whole: it has no comma and no quote. -/
theorem whole_of_isNameChar (h : ∀ c ∈ cs, isNameChar c = true) : Whole cs :=
  .of_plain fun c hc => ⟨ne_of_isNameChar (by decide) (h c hc),
    ne_of_isNameChar (by decide) (h c hc), ne_of_isNameChar (by decide) (h c hc)⟩

/-- A value as it stands is passed whole, in quotes of either kind or bare. -/
theorem whole_write {quoting : Quoting} (h : ∀ c ∈ cs, quoting.admits c = true) :
    Whole (quoting.write cs) := by
  cases quoting with
  | single => exact .of_quoted (Or.inl rfl) fun c hc => by simpa [Quoting.admits] using h c hc
  | double => exact .of_quoted (Or.inr rfl) fun c hc => by simpa [Quoting.admits] using h c hc
  | bare =>
    refine .of_plain fun c hc => ?_
    have hplain := h c hc
    simp only [Quoting.admits, Bool.and_eq_true, bne_iff_ne] at hplain
    exact ⟨hplain.1.1.1, hplain.1.2, hplain.2⟩

/-- All that is written of a pair is passed whole. -/
theorem whole_chars (w : WrittenPair) : Whole w.chars := by
  have hseparator : Whole [w.separator] := by
    refine .of_plain fun c hc => ?_
    rw [List.mem_singleton.mp hc]
    rcases w.separates with heq | heq <;> rw [heq] <;> decide
  have hvalue : Whole (w.beforeValue ++ w.quoting.write w.value) :=
    (Whole.of_blank w.beforeValue.2).append (whole_write w.admits_of_mem)
  -- each piece is passed whole, and so are pieces one after another
  have hcore : Whole w.core :=
    (whole_of_isNameChar w.isNameChar_of_mem).append
      ((Whole.of_blank w.afterName.2).append (hseparator.append hvalue))
  exact ((Whole.of_blank w.front.2).append hcore).append (.of_blank w.back.2)

/-! ## Pairs -/

/-- Between two marks, what has no mark in it is read back. -/
theorem readQuoted_quoted {mark : Char} (h : ∀ c ∈ cs, c ≠ mark) :
    readQuoted mark (mark :: (cs ++ [mark])) = some cs := by
  have hpass : ∀ c ∈ cs, (c != mark) = true := fun c hc => bne_iff_ne.mpr (h c hc)
  rw [readQuoted, List.dropWhile_append_of_pos hpass, List.takeWhile_append_of_pos hpass]
  simp

/-- A value is read back, however it stands and with any space before it. -/
theorem readTrimmed_write {quoting : Quoting} (h : ∀ c ∈ cs, quoting.admits c = true) :
    readTrimmed ((quoting.write cs).dropWhile isBlankChar) = some (trimChars cs) := by
  cases quoting with
  | single =>
    have hread : readQuoted '\'' ('\'' :: (cs ++ ['\''])) = some cs :=
      readQuoted_quoted fun c hc => by simpa [Quoting.admits] using h c hc
    rw [Quoting.write, List.dropWhile_cons_of_neg (by decide), readTrimmed, readValue, hread]
    rfl
  | double =>
    have hread : readQuoted '"' ('"' :: (cs ++ ['"'])) = some cs :=
      readQuoted_quoted fun c hc => by simpa [Quoting.admits] using h c hc
    have hother : readQuoted '\'' ('"' :: (cs ++ ['"'])) = none := rfl
    rw [Quoting.write, List.dropWhile_cons_of_neg (by decide), readTrimmed, readValue, hread,
      hother]
    rfl
  | bare =>
    -- without quotes: neither mark is found, and nothing in the value ends it
    have hplain : ∀ c ∈ cs.dropWhile isBlankChar, c ≠ ',' ∧ c ≠ '\x7d' ∧ c ≠ '\'' ∧ c ≠ '"' := by
      intro c hc
      have hadmits := h c ((List.dropWhile_suffix isBlankChar).subset hc)
      simp only [Quoting.admits, Bool.and_eq_true, bne_iff_ne] at hadmits
      exact ⟨hadmits.1.1.1, hadmits.1.1.2, hadmits.1.2, hadmits.2⟩
    have hunquoted (mark : Char) (hmark : ∀ c ∈ cs.dropWhile isBlankChar, c ≠ mark) :
        readQuoted mark (cs.dropWhile isBlankChar) = none := by
      cases hcs : cs.dropWhile isBlankChar with
      | nil => rfl
      | cons c rest => simp [readQuoted, hmark c (hcs ▸ List.mem_cons_self)]
    have hbare : readBare (cs.dropWhile isBlankChar) = some (cs.dropWhile isBlankChar) := by
      have hnone : (cs.dropWhile isBlankChar).any (fun c => c == ',' || c == '\x7d') = false := by
        rw [List.any_eq_false]
        intro c hc
        simp [(hplain c hc).1, (hplain c hc).2.1]
      rw [readBare, hnone]
      rfl
    have htrim : trimChars (cs.dropWhile isBlankChar) = trimChars cs := by
      rw [trimChars, trimChars, List.dropWhile_idempotent]
    rw [Quoting.write, readTrimmed, readValue, hunquoted '\'' fun c hc => (hplain c hc).2.2.1,
      hunquoted '"' fun c hc => (hplain c hc).2.2.2, hbare]
    exact congrArg some htrim

/-- A pair without space around it is read back. -/
theorem readPair_core (w : WrittenPair) : readPair w.core = some w.pair := by
  obtain ⟨n, more, hname⟩ := List.exists_cons_of_ne_nil w.name_ne_nil
  have hinked : isBlankChar n = false :=
    not_blank_of_isNameChar (w.isNameChar_of_mem n (hname ▸ List.mem_cons_self))
  have hsep : isBlankChar w.separator = false ∧ isNameChar w.separator = false ∧
      (w.separator == '=' || w.separator == ':') = true := by
    rcases w.separates with heq | heq <;> rw [heq] <;> decide
  have hstart : w.core.dropWhile isBlankChar = w.core := by
    rw [WrittenPair.core, hname, List.cons_append, List.dropWhile_cons_of_neg (by simp [hinked])]
  -- the name ends where space or the separator begins
  have hend : ∃ c rest, isNameChar c = false ∧
      w.afterName.1 ++ w.separator :: (w.beforeValue ++ w.quoting.write w.value) = c :: rest := by
    cases hspace : w.afterName.1 with
    | nil => exact ⟨_, _, hsep.2.1, rfl⟩
    | cons c rest =>
      refine ⟨c, _, ?_, rfl⟩
      by_contra hc
      have hblank := w.afterName.2 c (hspace ▸ List.mem_cons_self)
      rw [not_blank_of_isNameChar (by simpa using hc)] at hblank
      cases hblank
  obtain ⟨c, rest, hc, hrest⟩ := hend
  have htake : w.core.takeWhile isNameChar = w.name := by
    rw [WrittenPair.core, hrest, List.takeWhile_append_of_pos w.isNameChar_of_mem,
      List.takeWhile_cons_of_neg (by simp [hc]), List.append_nil]
  have hdrop : w.core.dropWhile isNameChar =
      w.afterName ++ w.separator :: (w.beforeValue ++ w.quoting.write w.value) := by
    rw [WrittenPair.core, List.dropWhile_append_of_pos w.isNameChar_of_mem, hrest,
      List.dropWhile_cons_of_neg (by simp [hc])]
  have hnamed : w.name.isEmpty = false := by simp [w.name_ne_nil]
  simp only [readPair_eq, hstart, htake, hdrop, hnamed, Bool.false_eq_true, if_false]
  rw [List.dropWhile_append_of_pos w.afterName.2, List.dropWhile_cons_of_neg (by simp [hsep.1]),
    readRest, hsep.2.2, List.dropWhile_append_of_pos w.beforeValue.2,
    readTrimmed_write w.admits_of_mem]
  rfl

/-- A pair `w` is read back as `w.pair`, with space around it. -/
theorem readPair_chars (w : WrittenPair) : readPair w.chars = some w.pair := by
  rw [WrittenPair.chars, readPair_append w.front.2 w.back.2, readPair_core]

/-! ## Texts -/

/-- A pair begins with a character of its name, after space. -/
theorem exists_chars_eq (w : WrittenPair) :
    ∃ n rest, isNameChar n = true ∧ w.chars = w.front ++ n :: rest := by
  obtain ⟨n, more, hname⟩ := List.exists_cons_of_ne_nil w.name_ne_nil
  exact ⟨n, _, w.isNameChar_of_mem n (hname ▸ List.mem_cons_self), by
    rw [WrittenPair.chars, WrittenPair.core, hname, List.append_assoc]; rfl⟩

/-- If there is a pair, then the text begins with a character of a name, after space. -/
theorem exists_body_eq {w : WrittenPairs} (h : w.pairs ≠ []) :
    ∃ front n rest, (∀ c ∈ front, isBlankChar c = true) ∧ isNameChar n = true ∧
      w.body = front ++ n :: rest := by
  obtain ⟨first, others, hpairs⟩ := List.exists_cons_of_ne_nil h
  obtain ⟨n, rest, hn, hchars⟩ := exists_chars_eq first
  have hbody : ∃ more, w.body = first.chars ++ more := by
    rw [WrittenPairs.body, hpairs]
    cases others with
    | nil => exact ⟨[], by simp⟩
    | cons next others => exact ⟨_, by rw [List.map_cons, List.map_cons, List.intercalate_cons_cons,
        List.append_assoc]⟩
  obtain ⟨more, hbody⟩ := hbody
  exact ⟨first.front, n, rest ++ more, first.front.2, hn, by
    rw [hbody, hchars, List.append_assoc, List.cons_append]⟩

/-- The parts of written pairs give these pairs. -/
theorem readParts_chars (pairs : List WrittenPair) :
    readParts (pairs.map (·.chars)) = some (pairs.map (·.pair)) := by
  induction pairs with
  | nil => rfl
  | cons first rest ih =>
    obtain ⟨n, more, hn, hchars⟩ := exists_chars_eq first
    -- a part with a name is no part of space alone, which would be passed over
    have hfilled : first.chars.all isBlankChar = false := by
      simp [hchars, not_blank_of_isNameChar hn]
    unfold readParts at ih ⊢
    rw [List.map_cons, List.filter_cons, hfilled]
    simp only [Bool.not_false, if_true]
    rw [List.mapM_cons, readPair_chars, ih]
    rfl

/-- A text of pairs is divided into the pairs and read back. -/
theorem readParts_body (w : WrittenPairs) :
    readParts (splitPairs none w.body) = some (w.pairs.map (·.pair)) := by
  cases hpairs : w.pairs with
  | nil =>
    rw [WrittenPairs.body, hpairs]
    rfl
  | cons first rest =>
    have hwhole : ∀ chunk ∈ (first :: rest).map (·.chars), Whole chunk := by
      intro chunk hchunk
      obtain ⟨pair, -, rfl⟩ := List.mem_map.mp hchunk
      exact whole_chars pair
    rw [WrittenPairs.body, hpairs, splitPairs_intercalate (by simp) hwhole, readParts_chars]

/-- The text without the space around it. -/
theorem trimChars_text (w : WrittenPairs) :
    trimChars w.text.toList =
      if w.braced then '\x7b' :: (w.body ++ ['\x7d']) else trimChars w.body := by
  rw [WrittenPairs.text, String.toList_ofList, Text.trimChars_append w.front.2 w.back.2,
    WrittenPairs.enclosed]
  split
  · exact Text.trimChars_of_ends (by decide) (by decide) _
  · rfl

/-- Without braces a trimmed text begins with a character of a name, if there is a pair. -/
theorem exists_trimChars_body {w : WrittenPairs} (h : w.pairs ≠ []) :
    ∃ n rest, isNameChar n = true ∧ trimChars w.body = n :: rest := by
  obtain ⟨front, n, rest, hfront, hn, hbody⟩ := exists_body_eq h
  have htrim := Text.trimChars_append hfront (List.forall_mem_nil _) (n :: rest)
  rw [List.append_nil, Text.trimChars_cons (not_blank_of_isNameChar hn)] at htrim
  exact ⟨n, _, hn, hbody ▸ htrim⟩

/-- A text of pairs, in braces or not, is read as the map that writing the pairs in turn leaves. -/
theorem parse?_text {w : WrittenPairs} (h : w.pairs ≠ []) :
    parse? (Text.trim w.text) = some (Keyed.ofPairs (w.pairs.map (·.pair))) := by
  -- braces are dropped if there are any; a bare text cannot begin with one
  have hparts : readParts (splitPairs none (dropBraces (trimChars w.text.toList))) =
      some (w.pairs.map (·.pair)) := by
    rw [trimChars_text]
    split
    · have hbraces : dropBraces ('\x7b' :: (w.body ++ ['\x7d'])) = w.body := by
        simp [dropBraces]
      rw [hbraces, readParts_body]
    · obtain ⟨n, rest, hn, htrim⟩ := exists_trimChars_body h
      have hopen : n ≠ '\x7b' := ne_of_isNameChar (by decide) hn
      have hbraces : dropBraces (trimChars w.body) = trimChars w.body := by
        rw [htrim, dropBraces]
        exact fun _ heq => hopen (List.cons.inj heq).1
      obtain ⟨front, back, hfront, hback, hbody⟩ := Text.exists_append_trimChars w.body
      rw [hbraces, ← readParts_append hfront hback, ← hbody, readParts_body]
  have hparse : parse? (Text.trim w.text) =
      (readParts (splitPairs none (dropBraces (trimChars (Text.trim w.text).toList)))).map
        Keyed.ofPairs := rfl
  rw [hparse, Text.toList_trim, Text.trimChars_trimChars, hparts]
  rfl

/-! ## Other notations -/

/-- What JSON passes over as space is space here. -/
theorem not_space_of_not_blank (h : isBlankChar c = false) : Json.isSpace c = false := by
  by_contra hspace
  simp only [Json.isSpace, Bool.not_eq_false, Bool.or_eq_true, beq_iff_eq] at hspace
  rcases hspace with ((rfl | rfl) | rfl) | rfl <;> exact absurd h (by decide)

/-- If a name follows the space `front`, then what JSON finds next is space that it does not pass
over, or a character of the name. -/
theorem skipSpace_append {front rest more : List Char} {n : Char}
    (hfront : ∀ c ∈ front, isBlankChar c = true) (hn : isNameChar n = true)
    (h : Json.skipSpace (front ++ n :: rest) = c :: more) :
    isBlankChar c = true ∨ isNameChar c = true := by
  induction front with
  | nil =>
    have hspace := not_space_of_not_blank (not_blank_of_isNameChar hn)
    rw [List.nil_append, Json.skipSpace, List.dropWhile_cons_of_neg (by simp [hspace])] at h
    exact Or.inr ((List.cons.inj h).1 ▸ hn)
  | cons d others ih =>
    obtain ⟨hd, hothers⟩ := List.forall_mem_cons.mp hfront
    rw [List.cons_append, Json.skipSpace, List.dropWhile_cons] at h
    split at h
    · exact ih hothers h
    · exact Or.inl ((List.cons.inj h).1 ▸ hd)

/-- A text of pairs is no map in JSON: a name has no quotes. -/
theorem not_map_of_ofJson? {w : WrittenPairs} (h : w.pairs ≠ []) (entries : Keyed Value) :
    Value.ofJson? (Text.trim w.text) ≠ some (.map entries) := by
  intro hjson
  obtain ⟨rest, c, more, hopen, hnext, hc⟩ := Json.exists_of_ofJson?_map hjson
  rw [Text.toList_trim, trimChars_text] at hopen
  -- in braces the text could be a map up to its first name, and without braces it cannot begin one
  split at hopen
  · obtain ⟨front, n, name, hfront, hn, hbody⟩ := exists_body_eq h
    rw [Json.skipSpace, List.dropWhile_cons_of_neg (by decide)] at hopen
    rw [← (List.cons.inj hopen).2, hbody, List.append_assoc, List.cons_append] at hnext
    rcases skipSpace_append hfront hn hnext with hblank | hname
    · rcases hc with rfl | rfl <;> exact absurd hblank (by decide)
    · rcases hc with rfl | rfl <;> exact absurd hname (by decide)
  · obtain ⟨n, name, hn, htrim⟩ := exists_trimChars_body h
    have hspace := not_space_of_not_blank (not_blank_of_isNameChar hn)
    rw [htrim, Json.skipSpace, List.dropWhile_cons_of_neg (by simp [hspace])] at hopen
    exact ne_of_isNameChar (by decide) hn (List.cons.inj hopen).1

/-- A text with a pair is not blank. -/
theorem isBlank_text_writtenPairs {w : WrittenPairs} (h : w.pairs ≠ []) :
    Text.isBlank w.text = false := by
  obtain ⟨front, n, rest, -, hn, hbody⟩ := exists_body_eq h
  refine Text.isBlank_eq_false_iff.mpr ⟨n, ?_, not_blank_of_isNameChar hn⟩
  have hmem : n ∈ w.body := by simp [hbody]
  rw [WrittenPairs.text, String.toList_ofList, WrittenPairs.enclosed]
  split <;> simp [hmem]

end PairNotation

/-! ## Parameters -/

namespace Annotations

variable {a : Annotations} {key : String}

/-- If `text` is not blank and `parametersOfText?` reads `params`, then these are the parameters,
without a warning. -/
theorem parameters_of_parametersOfText? {text : String} {params : List (String × String)}
    (h : a.entries.get? key = some (.str text)) (hfilled : Text.isBlank text = false)
    (hparams : parametersOfText? (Text.trim text) = some params) :
    a.parameters key = ⟨[], .ok params⟩ := by
  have hvalue : a.value key = .str text := by
    rw [value, h]
    rfl
  have hblank : (Value.str text).isBlank = false := hfilled
  have htext : (Value.str text).text = text := rfl
  simp only [parameters, hvalue, hblank, htext, hparams, Bool.false_eq_true, if_false,
    Report.pure_def]

/-- A blank text gives no parameters, without a warning. -/
theorem parameters_of_blank {text : String} (h : a.entries.get? key = some (.str text))
    (hblank : Text.isBlank text = true) : a.parameters key = ⟨[], .ok []⟩ := by
  have hvalue : a.value key = .str text := by
    rw [value, h]
    rfl
  have hblank' : (Value.str text).isBlank = true := hblank
  simp only [parameters, hvalue, hblank', if_true, Report.pure_def]

/-- Without a pair the text is blank, or it is an empty map in JSON. -/
theorem parameters_of_no_pairs {w : WrittenPairs} (h : a.entries.get? key = some (.str w.text))
    (hpairs : w.pairs = []) : a.parameters key = ⟨[], .ok []⟩ := by
  have hbody : w.body = [] := by
    rw [WrittenPairs.body, hpairs]
    rfl
  have htext : w.text.toList =
      w.front ++ (if w.braced then ['\x7b', '\x7d'] else []) ++ w.back := by
    rw [WrittenPairs.text, String.toList_ofList, WrittenPairs.enclosed, hbody]
    rfl
  -- without braces nothing is left, and empty braces are read as JSON before pairs are tried
  cases hbraced : w.braced with
  | false =>
    rw [hbraced] at htext
    refine parameters_of_blank h ?_
    simp only [Text.isBlank, htext, List.all_eq_true, Bool.false_eq_true, if_false,
      List.append_nil]
    intro c hc
    exact (List.mem_append.mp hc).elim (w.front.2 c) (w.back.2 c)
  | true =>
    rw [hbraced] at htext
    have hfilled : Text.isBlank w.text = false :=
      Text.isBlank_eq_false_iff.mpr ⟨'\x7b', by simp [htext], by decide⟩
    have htrim : Text.trim w.text = "\x7b\x7d" := by
      rw [Text.trim, htext, Text.trimChars_append w.front.2 w.back.2]
      rfl
    have hparams : parametersOfText? (Text.trim w.text) = some [] := by
      rw [htrim]
      decide +kernel
    exact parameters_of_parametersOfText? h hfilled hparams

/-- A text of pairs gives the map that writing them in turn leaves. -/
theorem parameters_eq (w : WrittenPairs) (h : a.entries.get? key = some (.str w.text)) :
    a.parameters key = ⟨[], .ok (Keyed.ofPairs (w.pairs.map (·.pair)))⟩ := by
  by_cases hpairs : w.pairs = []
  · rw [parameters_of_no_pairs h hpairs, hpairs]
    rfl
  · refine parameters_of_parametersOfText? h (PairNotation.isBlank_text_writtenPairs hpairs) ?_
    rw [parametersOfText?]
    split
    · next entries hjson => exact absurd hjson (PairNotation.not_map_of_ofJson? hpairs entries)
    · exact PairNotation.parse?_text hpairs

/-- A text of pairs gives its pairs as parameters, without a warning. A name that is written
several times stands where it is written first, with the value that is written last. -/
theorem parameters_of_writtenPairs (w : WrittenPairs)
    (h : a.entries.get? key = some (.str w.text)) :
    ∃ params, a.parameters key = ⟨[], .ok params⟩ ∧
      params.map (·.1) = (w.pairs.map (·.pair.1)).eraseDups ∧
      ∀ name, params.lookup name = (w.pairs.map (·.pair)).reverse.lookup name := by
  refine ⟨Keyed.ofPairs (w.pairs.map (·.pair)), parameters_eq w h, ?_, fun name => ?_⟩
  · have hkeys := Keyed.keys_ofPairs (w.pairs.map (·.pair))
    rwa [List.map_map] at hkeys
  · exact Keyed.get?_ofPairs _ name

end Annotations

/-- A text in braces with all ways to write a value, commas, braces and the other quote inside
quotes, and a name that is written twice. -/
def mixedPairs : WrittenPairs where
  braced := true
  front := .of ['\n']
  pairs := [
    { name := "max_lo".toList
      value := "10".toList
      quoting := .bare
      separator := ':'
      front := .of [' ']
      name_ne_nil := by decide
      isNameChar_of_mem := List.all_eq_true.mp (by decide)
      separates := Or.inr rfl
      admits_of_mem := List.all_eq_true.mp (by decide) },
    { name := "note".toList
      value := " a=\"1\", \x7bb\x7d ".toList
      quoting := .single
      afterName := .of ['\t']
      beforeValue := .of ['\n']
      name_ne_nil := by decide
      isNameChar_of_mem := List.all_eq_true.mp (by decide)
      separates := Or.inl rfl
      admits_of_mem := List.all_eq_true.mp (by decide) },
    { name := "max_lo".toList
      value := "it's 20".toList
      quoting := .double
      back := .of [' ']
      name_ne_nil := by decide
      isNameChar_of_mem := List.all_eq_true.mp (by decide)
      separates := Or.inl rfl
      admits_of_mem := List.all_eq_true.mp (by decide) }]

theorem Annotations.parameters_of_writtenPairs_mixed :
    mixedPairs.text =
        "\n\x7b max_lo:10,note\t=\n' a=\"1\", \x7bb\x7d ',max_lo=\"it's 20\" \x7d" ∧
      ∃ params, (⟨[("params", .str mixedPairs.text)], "Car", some "id"⟩ : Annotations).parameters
          "params" = ⟨[], .ok params⟩ ∧
        params.map (·.1) = ["max_lo", "note"] ∧ params.lookup "max_lo" = some "it's 20" ∧
        params.lookup "note" = some "a=\"1\", \x7bb\x7d" := by
  refine ⟨by decide, ?_⟩
  have hentry : (⟨[("params", .str mixedPairs.text)], "Car", some "id"⟩ : Annotations).entries.get?
      "params" = some (.str mixedPairs.text) := rfl
  obtain ⟨params, hparams, hnames, hvalues⟩ := parameters_of_writtenPairs mixedPairs hentry
  exact ⟨params, hparams, hnames.trans (by decide), (hvalues _).trans (by decide),
    (hvalues _).trans (by decide)⟩

end OrmMapping
