import OrmMapping.Keyed
import OrmMapping.Text.Blank
import OrmMapping.Text.Segments
import OrmMapping.Text.WordChar

/-!
# Pair notation

Generator parameters may be written as one text: pairs of name and value, divided by commas, each
with `=` or `:` between its parts, the whole possibly in braces. A value may be quoted either way,
and is then free to hold commas and braces:

    sequence='cars_seq', max_lo=100

* `parse?`: the parameters that a text spells out;
* `splitPairs`: a text cut at the commas outside quotes;
* `readPair`: one pair.
-/

namespace OrmMapping.PairNotation

/-- Puts a character in front of the first part. -/
def consFirst (c : Char) : List (List Char) → List (List Char)
  | [] => [[c]]
  | part :: parts => (c :: part) :: parts

/-- The parts of a text between the commas that stand outside quotes. `quote` is the quote that is
open, if any. -/
def splitPairs : (quote : Option Char) → List Char → List (List Char)
  | _, [] => [[]]
  | none, c :: rest =>
    if c == ',' then [] :: splitPairs none rest
    else consFirst c (splitPairs (if c == '\'' || c == '"' then some c else none) rest)
  | some mark, c :: rest => consFirst c (splitPairs (if c == mark then none else some mark) rest)

/-- A character that a parameter name may have. -/
def isNameChar (c : Char) : Bool :=
  Text.isWordChar c || c == '.' || c == '-'

/-- The value between two quotes `mark`, with nothing but space after it. -/
def readQuoted (mark : Char) : List Char → Option (List Char)
  | c :: rest =>
    if c == mark then
      match rest.dropWhile (· != mark) with
      | [] => none
      | _ :: after =>
        if after.all Text.isBlankChar then some (rest.takeWhile (· != mark)) else none
    else
      none
  | [] => none

/-- A value that is not quoted: anything without a comma and a closing brace. -/
def readBare (cs : List Char) : Option (List Char) :=
  if cs.any fun c => c == ',' || c == '\x7d' then none else some cs

/-- The value of a pair, quoted or not; a text that only begins like a quoted value is bare. -/
def readValue (cs : List Char) : Option (List Char) :=
  (readQuoted '\'' cs).or ((readQuoted '"' cs).or (readBare cs))

/-- A pair of name and value. Space may stand around the name, the separator and the value. -/
def readPair (cs : List Char) : Option (String × String) :=
  let start := cs.dropWhile Text.isBlankChar
  let name := start.takeWhile isNameChar
  if name.isEmpty then none
  else
    match (start.dropWhile isNameChar).dropWhile Text.isBlankChar with
    | [] => none
    | separator :: rest =>
      if separator == '=' || separator == ':' then
        (readValue (rest.dropWhile Text.isBlankChar)).map fun value =>
          (String.ofList name, String.ofList (Text.trimChars value))
      else
        none

/-- What stands between the braces, when the whole text is in braces. -/
def dropBraces (cs : List Char) : List Char :=
  match cs with
  | '\x7b' :: rest => if rest.getLast? == some '\x7d' then rest.dropLast else cs
  | _ => cs

/-- The parameters that a text spells out, or none when one of its parts is no pair. Parts of space
alone are passed over. -/
def parse? (text : String) : Option (Keyed String) :=
  let body := dropBraces (Text.trimChars text.toList)
  let parts := (splitPairs none body).filter fun part => !part.all Text.isBlankChar
  (parts.mapM readPair).map Keyed.ofPairs

end OrmMapping.PairNotation
