import OrmMapping.Json.Value

/-!
# Reading JSON

Strict JSON, with three further number literals: `NaN`, `Infinity` and `-Infinity`. There are no
comments, no trailing commas, no leading zeros, no raw control characters in texts and no escapes
that stand for half a character. A number with a fraction or an exponent is a double, any other a
whole number; a key written twice is one entry. Values that stand too deep within one another are
refused.

* `Value.ofJson?`: the value of a JSON text;
* `readValue`: the value at the start of a character sequence, with what follows it.
-/

namespace OrmMapping.Json

/-- The four characters that may stand between tokens. -/
def isSpace (c : Char) : Bool :=
  c == ' ' || c == '\t' || c == '\n' || c == '\r'

/-- Drops the space before the next token. -/
def skipSpace (cs : List Char) : List Char :=
  cs.dropWhile isSpace

/-- What follows the word, when the characters start with it. -/
def dropWord : (word cs : List Char) → Option (List Char)
  | [], cs => some cs
  | w :: word, c :: cs => if w == c then dropWord word cs else none
  | _ :: _, [] => none

/-! ## Texts -/

/-- The value of a hexadecimal digit. -/
def hexValue? (c : Char) : Option Nat :=
  let n := c.toNat
  if 0x30 ≤ n && n ≤ 0x39 then some (n - 0x30)
  else if 0x41 ≤ n && n ≤ 0x46 then some (n - 0x37)
  else if 0x61 ≤ n && n ≤ 0x66 then some (n - 0x57)
  else none

/-- Four hexadecimal digits. -/
def readHex4 : List Char → Option (Nat × List Char)
  | a :: b :: c :: d :: rest => do
    let a ← hexValue? a
    let b ← hexValue? b
    let c ← hexValue? c
    let d ← hexValue? d
    return (((a * 16 + b) * 16 + c) * 16 + d, rest)
  | _ => none

/-- The character of a numeric escape. One above U+FFFF is written as two escapes, a high half and
a low half; a half alone stands for nothing. -/
def readNumericEscape (cs : List Char) : Option (Char × List Char) := do
  let (high, rest) ← readHex4 cs
  if 0xD800 ≤ high && high ≤ 0xDBFF then
    match rest with
    | '\\' :: 'u' :: rest =>
      let (low, rest) ← readHex4 rest
      if 0xDC00 ≤ low && low ≤ 0xDFFF then
        return (Char.ofNat (0x10000 + (high - 0xD800) * 0x400 + (low - 0xDC00)), rest)
      else
        none
    | _ => none
  else if 0xDC00 ≤ high && high ≤ 0xDFFF then
    none
  else
    return (Char.ofNat high, rest)

/-- The character of an escape of one letter. -/
def simpleEscape? : Char → Option Char
  | '"' => some '"'
  | '\\' => some '\\'
  | '/' => some '/'
  | 'b' => some '\x08'
  | 'f' => some '\x0c'
  | 'n' => some '\n'
  | 'r' => some '\r'
  | 't' => some '\t'
  | _ => none

/-- The next character of a text, or none at the closing quote. -/
def readTextStep : List Char → Option (Option Char × List Char)
  | [] => none
  | '"' :: rest => some (none, rest)
  | '\\' :: 'u' :: rest => (readNumericEscape rest).map fun (c, rest) => (some c, rest)
  | '\\' :: c :: rest => (simpleEscape? c).map fun c => (some c, rest)
  | c :: rest => if c == '\\' || c.toNat < 0x20 then none else some (some c, rest)

/-- A text up to its closing quote, which is dropped. -/
def readText : (fuel : Nat) → List Char → Option (List Char × List Char)
  | 0, _ => none
  | fuel + 1, cs =>
    match readTextStep cs with
    | none => none
    | some (none, rest) => some ([], rest)
    | some (some c, rest) =>
      match readText fuel rest with
      | none => none
      | some (more, rest) => some (c :: more, rest)

/-! ## Numbers -/

/-- The number that decimal digits stand for. -/
def digitsValue (digits : List Char) : Nat :=
  digits.foldl (fun n d => 10 * n + (d.toNat - 0x30)) 0

/-- The digits after a point; none when there is no point. -/
def readFraction : List Char → Option (List Char × List Char)
  | '.' :: rest =>
    let digits := rest.takeWhile Char.isDigit
    if digits.isEmpty then none else some (digits, rest.dropWhile Char.isDigit)
  | rest => some ([], rest)

/-- The exponent; none when there is no exponent. -/
def readExponent : List Char → Option (Option Int × List Char)
  | c :: rest =>
    if c == 'e' || c == 'E' then
      let (negative, rest) :=
        match rest with
        | '-' :: rest => (true, rest)
        | '+' :: rest => (false, rest)
        | rest => (false, rest)
      let digits := rest.takeWhile Char.isDigit
      let size : Int := digitsValue digits
      if digits.isEmpty then none
      else some (some (if negative then -size else size), rest.dropWhile Char.isDigit)
    else
      some (none, c :: rest)
  | [] => some (none, [])

/-- The most digits that the whole part of a number may have. -/
def maxWholeLength : Nat := 4300

/-- The digits, the fraction and the exponent of a number after its sign. -/
def readMagnitude (negative : Bool) (cs : List Char) : Option (Value × List Char) := do
  let whole := cs.takeWhile Char.isDigit
  if whole.isEmpty || (whole.head? == some '0' && whole.length != 1) ||
      maxWholeLength < whole.length then
    none
  else
    let (fraction, rest) ← readFraction (cs.dropWhile Char.isDigit)
    let (exponent?, rest) ← readExponent rest
    if fraction.isEmpty && exponent?.isNone then
      let n : Int := digitsValue whole
      return (.int (if negative then -n else n), rest)
    else
      let digits := whole ++ fraction
      let scale : Int := exponent?.getD 0 - fraction.length
      return (.float (.ofDecimal negative (digitsValue digits) digits.length scale), rest)

/-- A number or one of the literal words. -/
def readScalar (cs : List Char) : Option (Value × List Char) :=
  match cs with
  | 't' :: _ => (dropWord "true".toList cs).map fun rest => (.bool true, rest)
  | 'f' :: _ => (dropWord "false".toList cs).map fun rest => (.bool false, rest)
  | 'n' :: _ => (dropWord "null".toList cs).map fun rest => (.null, rest)
  | 'N' :: _ => (dropWord "NaN".toList cs).map fun rest => (.float .nan, rest)
  | 'I' :: _ => (dropWord "Infinity".toList cs).map fun rest => (.float (.infinite false), rest)
  | '-' :: 'I' :: rest =>
    (dropWord "nfinity".toList rest).map fun rest => (.float (.infinite true), rest)
  | '-' :: rest => readMagnitude true rest
  | _ => readMagnitude false cs

/-! ## Values -/

/-- How deep values may stand within lists and maps. An empty list or map takes no depth. -/
def maxDepth : Nat := 200

mutual

/-- The value at the start of the characters, with what follows it. `depth` is how much deeper the
values in it may stand. -/
def readValue : (fuel depth : Nat) → List Char → Option (Value × List Char)
  | 0, _, _ => none
  | fuel + 1, depth, cs =>
    match skipSpace cs with
    | '\x7b' :: rest =>
      match skipSpace rest with
      | '\x7d' :: rest => some (.map [], rest)
      | rest =>
        match depth with
        | 0 => none
        | inner + 1 =>
          (readEntries fuel inner rest).map fun (pairs, rest) => (.map (Keyed.ofPairs pairs), rest)
    | '[' :: rest =>
      match skipSpace rest with
      | ']' :: rest => some (.list [], rest)
      | rest =>
        match depth with
        | 0 => none
        | inner + 1 => (readItems fuel inner rest).map fun (items, rest) => (.list items, rest)
    | '"' :: rest =>
      (readText (fuel + 1) rest).map fun (cs, rest) => (.str (.ofList cs), rest)
    | rest => readScalar rest

/-- The items of a list up to its closing bracket. -/
def readItems : (fuel depth : Nat) → List Char → Option (List Value × List Char)
  | 0, _, _ => none
  | fuel + 1, depth, cs =>
    match readValue fuel depth cs with
    | none => none
    | some (item, rest) =>
      match skipSpace rest with
      | ',' :: rest => (readItems fuel depth rest).map fun (items, rest) => (item :: items, rest)
      | ']' :: rest => some ([item], rest)
      | _ => none

/-- The entries of a map up to its closing bracket. -/
def readEntries : (fuel depth : Nat) → List Char → Option (List (String × Value) × List Char)
  | 0, _, _ => none
  | fuel + 1, depth, cs =>
    match skipSpace cs with
    | '"' :: rest =>
      match readText (fuel + 1) rest with
      | none => none
      | some (key, rest) =>
        match skipSpace rest with
        | ':' :: rest =>
          match readValue fuel depth rest with
          | none => none
          | some (value, rest) =>
            let pair := (String.ofList key, value)
            match skipSpace rest with
            | ',' :: rest =>
              (readEntries fuel depth rest).map fun (pairs, rest) => (pair :: pairs, rest)
            | '\x7d' :: rest => some ([pair], rest)
            | _ => none
        | _ => none
    | _ => none

end

end OrmMapping.Json

namespace OrmMapping.Value

/-- The value that a whole JSON text stands for. Reading goes at most two steps deeper for each
character it takes, so twice the length is fuel enough. -/
def ofJson? (text : String) : Option Value :=
  let cs := text.toList
  match Json.readValue (2 * cs.length + 2) Json.maxDepth cs with
  | some (value, rest) => if (Json.skipSpace rest).isEmpty then some value else none
  | none => none

end OrmMapping.Value
