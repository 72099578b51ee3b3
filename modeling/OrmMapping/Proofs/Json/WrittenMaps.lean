import Mathlib.Data.List.Basic
import OrmMapping.Proofs.Json.Maps
import OrmMapping.Proofs.Text.Blank

/-!
# Maps of texts written in JSON

A map whose values are texts may be written in many ways: characters may stand for themselves or be
spelled by one of the escapes, and there may be space between any two tokens. All of them are read
as the same map.

* `Spelled`, `SpelledText`: the ways to spell a character and a text;
* `WrittenEntry`, `WrittenMap`: an entry and a map, as they are written;
* `readText_spelled`, `readEntries_written`: reading passes over exactly what was written;
* `ofJson?_trim_text`: the map that is read;
* `exists_writtenMap`: every map of texts can be written.
-/

namespace OrmMapping.Json

variable {c : Char} {cs spelling rest : List Char} {fuel depth n : Nat}

/-! ## As written -/

/-- The ways to spell a character inside quotes: as itself, by a letter, by its number, or by the
two halves of its number. -/
inductive Spelled : Char → List Char → Prop
  | itself {c : Char} (quote : c ≠ '"') (backslash : c ≠ '\\') (control : 0x20 ≤ c.toNat) :
    Spelled c [c]
  | letter {c e : Char} (escape : simpleEscape? e = some c) : Spelled c ['\\', e]
  | number {c w x y z : Char} (digits : readHex4 [w, x, y, z] = some (c.toNat, [])) :
    Spelled c ['\\', 'u', w, x, y, z]
  | halves {c w x y z w' x' y' z' : Char} {high low : Nat}
    (highDigits : readHex4 [w, x, y, z] = some (high, []))
    (lowDigits : readHex4 [w', x', y', z'] = some (low, []))
    (isHigh : 0xD800 ≤ high ∧ high ≤ 0xDBFF) (isLow : 0xDC00 ≤ low ∧ low ≤ 0xDFFF)
    (eq : c.toNat = 0x10000 + (high - 0xD800) * 0x400 + (low - 0xDC00)) :
    Spelled c ['\\', 'u', w, x, y, z, '\\', 'u', w', x', y', z']

/-- A text spelled character by character. -/
inductive SpelledText : List Char → List Char → Prop
  | nil : SpelledText [] []
  | cons {c : Char} {cs spelling rest : List Char} (first : Spelled c spelling)
    (others : SpelledText cs rest) : SpelledText (c :: cs) (spelling ++ rest)

/-- Any number of characters of space between tokens. -/
abbrev Gap := {cs : List Char // ∀ c ∈ cs, isSpace c = true}

/-- An entry as written: a key and a text under it, each with its spelling. -/
structure WrittenEntry where
  key : List Char
  keySpelling : List Char
  value : List Char
  valueSpelling : List Char
  front : Gap := ⟨[], by simp⟩
  afterKey : Gap := ⟨[], by simp⟩
  beforeValue : Gap := ⟨[], by simp⟩
  back : Gap := ⟨[], by simp⟩
  key_spelled : SpelledText key keySpelling
  value_spelled : SpelledText value valueSpelling

namespace WrittenEntry

/-- The key and the text under it. -/
def pair (e : WrittenEntry) : String × String :=
  (String.ofList e.key, String.ofList e.value)

/-- What follows the value of an entry. -/
def fromValue (e : WrittenEntry) (rest : List Char) : List Char :=
  e.beforeValue ++ '"' :: (e.valueSpelling ++ '"' :: (e.back ++ rest))

/-- The entry with what follows it. -/
def followedBy (e : WrittenEntry) (rest : List Char) : List Char :=
  e.front ++ '"' :: (e.keySpelling ++ '"' :: (e.afterKey ++ ':' :: e.fromValue rest))

end WrittenEntry

/-- Entries with commas between them, up to the closing brace and what follows it. -/
def writtenEntries (rest : List Char) : List WrittenEntry → List Char
  | [] => '\x7d' :: rest
  | [e] => e.followedBy ('\x7d' :: rest)
  | e :: next :: others => e.followedBy (',' :: writtenEntries rest (next :: others))

/-- A map as written. -/
structure WrittenMap where
  entries : List WrittenEntry
  front : Gap := ⟨[], by simp⟩
  inner : Gap := ⟨[], by simp⟩
  back : Gap := ⟨[], by simp⟩

namespace WrittenMap

/-- The map from its opening to its closing brace, with what follows it. -/
def followedBy (w : WrittenMap) (rest : List Char) : List Char :=
  '\x7b' :: (w.inner ++ writtenEntries rest w.entries)

/-- The whole text. -/
def text (w : WrittenMap) : String :=
  String.ofList (w.front ++ w.followedBy w.back)

/-- The map that is written. -/
def pairs (w : WrittenMap) : List (String × String) :=
  w.entries.map (·.pair)

end WrittenMap

/-! ## Texts -/

/-- Four digits are read as they are, whatever follows them. -/
theorem readHex4_append {w x y z : Char} (h : readHex4 [w, x, y, z] = some (n, []))
    (rest : List Char) : readHex4 (w :: x :: y :: z :: rest) = some (n, rest) := by
  simp only [readHex4, Option.bind_eq_bind, Option.bind_eq_some_iff, Option.pure_def] at h ⊢
  obtain ⟨a, ha, b, hb, d, hd, e, he, hn⟩ := h
  exact ⟨a, ha, b, hb, d, hd, e, he, by cases hn; rfl⟩

/-- The number of a character is no half of a pair, so `\u` followed by it is read by itself. -/
theorem not_half (c : Char) : c.toNat < 0xD800 ∨ 0xDFFF < c.toNat := by
  rcases c.valid with h | h
  · exact Or.inl h
  · exact Or.inr h.1

/-- One step of reading passes over the spelling of one character, whatever follows it. -/
theorem readTextStep_spelled (h : Spelled c spelling) (rest : List Char) :
    readTextStep (spelling ++ rest) = some (some c, rest) := by
  cases h with
  | itself quote backslash control =>
    rw [List.singleton_append, readTextStep]
    · simp [backslash, Nat.not_lt.mpr control]
    · exact fun heq => quote heq
    · exact fun _ heq => absurd heq backslash
    · exact fun _ _ heq => absurd heq backslash
  | @letter e escape =>
    have hnumber : e ≠ 'u' := by
      rintro rfl
      cases escape
    simp only [List.cons_append, List.nil_append]
    rw [readTextStep]
    · rw [escape, Option.map_some]
    · exact hnumber
  | @number w x y z digits =>
    have hhalf : ¬ (0xD800 ≤ c.toNat ∧ c.toNat ≤ 0xDFFF) := by
      have hnot := not_half c
      omega
    have hread : readNumericEscape (w :: x :: y :: z :: rest) = some (c, rest) := by
      -- not a half, so the first branches of the escape do not apply
      simp only [readNumericEscape, readHex4_append digits, Option.bind_eq_bind, Option.bind_some,
        Bool.and_eq_true, decide_eq_true_eq, Option.pure_def, Char.ofNat_toNat]
      rw [if_neg (by omega), if_neg (by omega)]
    simp only [List.cons_append, List.nil_append, readTextStep, hread, Option.map_some]
  | @halves w x y z w' x' y' z' high low highDigits lowDigits isHigh isLow eq =>
    have hread : readNumericEscape
        (w :: x :: y :: z :: '\\' :: 'u' :: w' :: x' :: y' :: z' :: rest) = some (c, rest) := by
      simp only [readNumericEscape, readHex4_append highDigits, readHex4_append lowDigits,
        Option.bind_eq_bind, Option.bind_some, isHigh, isLow, decide_true, Bool.and_self,
        if_true, Option.pure_def, ← eq, Char.ofNat_toNat]
    simp only [List.cons_append, List.nil_append, readTextStep, hread, Option.map_some]

/-- A spelling has at least one character, so reading it takes fuel. -/
theorem length_spelled_pos (h : Spelled c spelling) : 0 < spelling.length := by
  cases h <;> exact Nat.succ_pos _

/-- A text is read up to its closing quote. `hfuel` counts the characters, of which each step takes
at least one. -/
theorem readText_spelled (h : SpelledText cs spelling) (rest : List Char) (fuel : Nat)
    (hfuel : (spelling ++ '"' :: rest).length ≤ fuel) :
    readText fuel (spelling ++ '"' :: rest) = some (cs, rest) := by
  induction h generalizing fuel with
  | nil =>
    cases fuel with
    | zero => cases hfuel
    | succ fuel => rfl
  | @cons c cs spelling others first _ ih =>
    have hpos := length_spelled_pos first
    rw [List.append_assoc, List.length_append] at hfuel
    cases fuel with
    | zero => omega
    | succ fuel =>
      have hothers : readText fuel (others ++ '"' :: rest) = some (cs, rest) := ih fuel (by omega)
      simp only [readText, List.append_assoc, readTextStep_spelled first, hothers]

/-! ## Entries -/

/-- The space of a gap is skipped. -/
theorem skipSpace_gap (gap : Gap) (rest : List Char) : skipSpace (gap ++ rest) = skipSpace rest :=
  List.dropWhile_append_of_pos gap.2

/-- A character that is no space is not skipped. -/
theorem skipSpace_of_token (h : isSpace c = false) (rest : List Char) :
    skipSpace (c :: rest) = c :: rest :=
  List.dropWhile_cons_of_neg (by simp [h])

/-- The value of an entry is read up to its closing quote, at any depth, since texts take none. -/
theorem readValue_fromValue (e : WrittenEntry) (rest : List Char) (fuel depth : Nat)
    (hfuel : (e.fromValue rest).length ≤ fuel) :
    readValue fuel depth (e.fromValue rest) =
      some (.str (String.ofList e.value), e.back ++ rest) := by
  have hstart : skipSpace (e.fromValue rest) =
      '"' :: (e.valueSpelling ++ '"' :: (e.back ++ rest)) := by
    rw [WrittenEntry.fromValue, skipSpace_gap, skipSpace_of_token (by decide)]
  rw [WrittenEntry.fromValue, List.length_append, List.length_cons] at hfuel
  cases fuel with
  | zero => omega
  | succ fuel =>
    have htext := readText_spelled e.value_spelled (e.back ++ rest) (fuel + 1) (by omega)
    simp only [readValue, hstart, htext, Option.map_some]

/-- An entry is read up to what follows it: the entries after a comma, or the end after the closing
brace. -/
theorem readEntries_followedBy (e : WrittenEntry) (rest : List Char)
    (hfuel : (e.followedBy rest).length ≤ fuel + 1) :
    readEntries (fuel + 1) depth (e.followedBy rest) =
      match skipSpace rest with
      | ',' :: rest => (readEntries fuel depth rest).map fun (pairs, rest) =>
        ((e.pair.1, .str e.pair.2) :: pairs, rest)
      | '\x7d' :: rest => some ([(e.pair.1, .str e.pair.2)], rest)
      | _ => none := by
  have hstart : skipSpace (e.followedBy rest) =
      '"' :: (e.keySpelling ++ '"' :: (e.afterKey ++ ':' :: e.fromValue rest)) := by
    rw [WrittenEntry.followedBy, skipSpace_gap, skipSpace_of_token (by decide)]
  have hcolon : skipSpace (e.afterKey ++ ':' :: e.fromValue rest) = ':' :: e.fromValue rest := by
    rw [skipSpace_gap, skipSpace_of_token (by decide)]
  simp only [WrittenEntry.followedBy, List.length_append, List.length_cons] at hfuel
  -- the key takes part of the fuel, and what is left suffices for the value
  have hkey := readText_spelled e.key_spelled (e.afterKey ++ ':' :: e.fromValue rest)
    (fuel + 1) (by simp only [List.length_append, List.length_cons]; omega)
  have hvalue := readValue_fromValue e rest fuel depth (by omega)
  simp only [readEntries, hstart, hkey, hcolon, hvalue, skipSpace_gap]
  rfl

/-- All entries are read up to the closing brace. By induction over the entries, each of which takes
one step of the fuel and more than one character. -/
theorem readEntries_written {entries : List WrittenEntry} (hne : entries ≠ []) (rest : List Char)
    (fuel depth : Nat) (hfuel : (writtenEntries rest entries).length ≤ fuel) :
    readEntries fuel depth (writtenEntries rest entries) =
      some (entries.map fun e => (e.pair.1, .str e.pair.2), rest) := by
  induction entries generalizing fuel with
  | nil => exact absurd rfl hne
  | cons e others ih =>
    cases fuel with
    | zero =>
      cases others <;>
        simp only [writtenEntries, WrittenEntry.followedBy, List.length_append,
          List.length_cons] at hfuel <;> omega
    | succ fuel =>
      cases others with
      | nil =>
        rw [writtenEntries, readEntries_followedBy e _ hfuel, skipSpace_of_token (by decide)]
        rfl
      | cons next others =>
        have hlength : (writtenEntries rest (next :: others)).length ≤ fuel := by
          simp only [writtenEntries, WrittenEntry.followedBy, WrittenEntry.fromValue,
            List.length_append, List.length_cons] at hfuel ⊢
          omega
        rw [writtenEntries, readEntries_followedBy e _ hfuel, skipSpace_of_token (by decide)]
        simp only [ih (List.cons_ne_nil _ _) fuel hlength, Option.map_some, List.map_cons]

/-! ## Maps -/

/-- Space before an entry does not matter. -/
theorem readEntries_skipSpace (fuel depth : Nat) (cs : List Char) :
    readEntries fuel depth (skipSpace cs) = readEntries fuel depth cs := by
  cases fuel with
  | zero => rw [readEntries, readEntries]
  | succ fuel => rw [readEntries, readEntries, skipSpace_skipSpace]

/-- A map is read up to its closing brace, and takes one level of the depth. -/
theorem readValue_followedBy (w : WrittenMap) (rest : List Char) (fuel depth : Nat)
    (hfuel : (w.followedBy rest).length ≤ fuel) :
    readValue fuel (depth + 1) (w.followedBy rest) =
      some (.map (Keyed.ofPairs (w.entries.map fun e => (e.pair.1, .str e.pair.2))), rest) := by
  rw [WrittenMap.followedBy, List.length_cons, List.length_append] at hfuel
  cases fuel with
  | zero => omega
  | succ fuel =>
    rw [readValue, WrittenMap.followedBy, skipSpace_of_token (by decide)]
    cases hentries : w.entries with
    | nil =>
      simp only [writtenEntries, skipSpace_gap, skipSpace_of_token (c := '\x7d') (by decide)]
      rfl
    | cons e others =>
      have hread := readEntries_written (List.cons_ne_nil e others) rest fuel depth
        (by rw [hentries] at hfuel; omega)
      -- with an entry, the brace is followed by a quote and not by the closing brace
      have hquote : ∃ more, skipSpace (writtenEntries rest (e :: others)) = '"' :: more := by
        cases others <;>
          exact ⟨_, by rw [writtenEntries, WrittenEntry.followedBy, skipSpace_gap,
            skipSpace_of_token (by decide)]⟩
      obtain ⟨more, hquote⟩ := hquote
      rw [← readEntries_skipSpace, hquote] at hread
      have hmap : (readEntries fuel depth ('"' :: more)).map (fun (pairs, rest) =>
          (Value.map (Keyed.ofPairs pairs), rest)) = some (.map (Keyed.ofPairs
            ((e :: others).map fun e => (e.pair.1, .str e.pair.2))), rest) := by
        rw [hread, Option.map_some]
      simp only [skipSpace_gap, hquote]
      exact hmap

/-- Whatever the entries, the closing brace comes last, and what follows it does not matter to what
comes before. -/
theorem exists_writtenEntries_eq (entries : List WrittenEntry) :
    ∃ cs, ∀ rest, writtenEntries rest entries = cs ++ '\x7d' :: rest := by
  induction entries with
  | nil => exact ⟨[], fun rest => rfl⟩
  | cons e others ih =>
    have hafter : ∀ cs rest, e.followedBy (cs ++ '\x7d' :: rest) =
        e.followedBy cs ++ '\x7d' :: rest := by
      intro cs rest
      simp [WrittenEntry.followedBy, WrittenEntry.fromValue]
    cases others with
    | nil => exact ⟨e.followedBy [], fun rest => hafter [] rest⟩
    | cons next others =>
      obtain ⟨cs, hcs⟩ := ih
      exact ⟨e.followedBy (',' :: cs), fun rest => by
        rw [writtenEntries, hcs, ← List.cons_append, hafter]⟩

/-- Space between tokens is space in texts as well. -/
theorem blank_of_isSpace (h : isSpace c = true) : Text.isBlankChar c = true := by
  simp only [isSpace, Bool.or_eq_true, beq_iff_eq] at h
  rcases h with ((rfl | rfl) | rfl) | rfl <;> decide

/-- A written map without the space around it begins and ends with its braces. -/
theorem toList_trim_text (w : WrittenMap) : (Text.trim w.text).toList = w.followedBy [] := by
  obtain ⟨cs, hcs⟩ := exists_writtenEntries_eq w.entries
  have hfollowed (rest : List Char) :
      w.followedBy rest = '\x7b' :: ((w.inner ++ cs) ++ ['\x7d']) ++ rest := by
    rw [WrittenMap.followedBy, hcs]
    simp
  rw [Text.toList_trim, WrittenMap.text, String.toList_ofList, hfollowed, ← List.append_assoc,
    Text.trimChars_append (fun c hc => blank_of_isSpace (w.front.2 c hc))
      fun c hc => blank_of_isSpace (w.back.2 c hc),
    Text.trimChars_of_ends (by decide) (by decide), hfollowed, List.append_nil]

/-- A map of texts is read as the map that writing its entries in turn leaves. -/
theorem ofJson?_trim_text (w : WrittenMap) :
    Value.ofJson? (Text.trim w.text) =
      some (.map (Keyed.ofPairs (w.entries.map fun e => (e.pair.1, .str e.pair.2)))) := by
  -- one map is not too deep, whatever the limit is
  obtain ⟨inner, hdepth⟩ : ∃ inner, maxDepth = inner + 1 := ⟨_, rfl⟩
  have hread := readValue_followedBy w [] (2 * (w.followedBy []).length + 2) inner (by omega)
  simp only [Value.ofJson?, hdepth, toList_trim_text, hread]
  rfl

/-- A written map is not blank, since it has a brace. -/
theorem isBlank_text (w : WrittenMap) : Text.isBlank w.text = false := by
  refine Text.isBlank_eq_false_iff.mpr ⟨'\x7b', ?_, by decide⟩
  rw [WrittenMap.text, String.toList_ofList, WrittenMap.followedBy]
  simp

/-! ## Every map -/

/-- A text without quotes, backslashes and control characters may stand for itself. -/
theorem spelledText_self
    (h : (cs.all fun c => c != '"' && c != '\\' && decide (0x20 ≤ c.toNat)) = true) :
    SpelledText cs cs := by
  induction cs with
  | nil => exact .nil
  | cons c rest ih =>
    simp only [List.all_cons, Bool.and_eq_true, bne_iff_ne, decide_eq_true_eq] at h
    obtain ⟨⟨⟨hquote, hbackslash⟩, hcontrol⟩, hrest⟩ := h
    exact .cons (.itself hquote hbackslash hcontrol) (ih hrest)

/-- Every character can be spelled: as itself, by a letter, or, when it is a control character, by
its number. -/
theorem exists_spelled (c : Char) : ∃ spelling, Spelled c spelling := by
  have hdigits : ∀ n < 0x20, (['0', '1'].any fun x => "0123456789abcdef".toList.any fun y =>
      readHex4 ['0', '0', x, y] == some (n, [])) = true := by decide
  by_cases hquote : c = '"'
  · exact ⟨['\\', '"'], .letter (by rw [hquote]; rfl)⟩
  · by_cases hbackslash : c = '\\'
    · exact ⟨['\\', '\\'], .letter (by rw [hbackslash]; rfl)⟩
    · by_cases hcontrol : 0x20 ≤ c.toNat
      · exact ⟨[c], .itself hquote hbackslash hcontrol⟩
      · obtain ⟨x, -, hx⟩ := List.any_eq_true.mp (hdigits c.toNat (Nat.lt_of_not_le hcontrol))
        obtain ⟨y, -, hread⟩ := List.any_eq_true.mp hx
        exact ⟨_, .number (beq_iff_eq.mp hread)⟩

/-- Every text can be spelled. -/
theorem exists_spelledText (cs : List Char) : ∃ spelling, SpelledText cs spelling := by
  induction cs with
  | nil => exact ⟨_, .nil⟩
  | cons c rest ih =>
    obtain ⟨first, hfirst⟩ := exists_spelled c
    obtain ⟨others, hothers⟩ := ih
    exact ⟨_, .cons hfirst hothers⟩

/-- Every list of pairs of texts is that of some written map. -/
theorem exists_writtenMap (pairs : List (String × String)) :
    ∃ w : WrittenMap, w.pairs = pairs := by
  have hall : ∃ entries : List WrittenEntry, entries.map (·.pair) = pairs := by
    induction pairs with
    | nil => exact ⟨[], rfl⟩
    | cons pair rest ih =>
      obtain ⟨entries, hentries⟩ := ih
      obtain ⟨keySpelling, hkey⟩ := exists_spelledText pair.1.toList
      obtain ⟨valueSpelling, hvalue⟩ := exists_spelledText pair.2.toList
      refine ⟨{ key := _, keySpelling := _, value := _, valueSpelling := _,
                key_spelled := hkey, value_spelled := hvalue } :: entries, ?_⟩
      rw [List.map_cons, hentries, WrittenEntry.pair, String.ofList_toList, String.ofList_toList]
  obtain ⟨entries, hentries⟩ := hall
  exact ⟨{ entries }, hentries⟩

end OrmMapping.Json
