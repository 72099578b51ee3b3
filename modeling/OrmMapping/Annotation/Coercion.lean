import OrmMapping.Json.Value
import OrmMapping.Text.Blank

/-!
# Reading values as truth values and whole numbers

Descriptors write truth values and numbers in many ways. These are the ones that are understood,
whatever the annotation; any other value is refused.

* `Value.toBool?`: truth values, the numbers 0 and 1, and the usual words;
* `Value.toInt?`: whole numbers as numbers or as text;
* `Value.isBlank`: values that say nothing.
-/

namespace OrmMapping

/-- The words for false and true, in lower case. -/
def boolWords : List (String × Bool) :=
  [("0", false), ("off", false), ("f", false), ("false", false), ("n", false), ("no", false),
    ("1", true), ("on", true), ("t", true), ("true", true), ("y", true), ("yes", true)]

/-- The truth value of one of the words, whatever the case of its ASCII letters. -/
def boolOfWord? (s : String) : Option Bool :=
  boolWords.lookup (String.ofList (s.toList.map Char.toLower))

/-- The truth value of one of the numbers 0 and 1. -/
def boolOfInt? (n : Int) : Option Bool :=
  if n == 0 then some false else if n == 1 then some true else none

/-- `2 ^ 63`: doubles from here on are not taken for whole numbers. -/
def wholeBound : Nat := 0x8000000000000000

/-! ## Whole numbers written as text -/

/-- The most digits that a whole number may have. -/
def maxDigits : Nat := 4300

/-- The number that digits stand for: one digit, or several of which the first is not zero. -/
def naturalOfDigits? (digits : List Char) : Option Nat :=
  if digits.isEmpty || !digits.all Char.isDigit || maxDigits < digits.length ||
      (digits.head? == some '0' && digits.length != 1) then
    none
  else
    some (digits.foldl (fun n d => 10 * n + (d.toNat - 0x30)) 0)

/-- The number that digits stand for, negative after a minus. -/
def signedOfDigits? : List Char → Option Int
  | '-' :: digits => (naturalOfDigits? digits).map fun n => -(n : Int)
  | digits => (naturalOfDigits? digits).map fun n => (n : Int)

/-- Takes out each `_`; they stand alone, and not at the ends. -/
def dropSeparators? (cs : List Char) : Option (List Char) :=
  let groups := Text.splitChars '_' cs
  if groups.all fun group => !group.isEmpty then some groups.flatten else none

/-- Splits off a fraction of zeros; the text of a whole number may end with one. -/
def dropZeroFraction? (cs : List Char) : Option (List Char) :=
  match cs.dropWhile (· != '.') with
  | [] => some cs
  | _ :: zeros =>
    if !zeros.isEmpty && zeros.all (· == '0') then some (cs.takeWhile (· != '.')) else none

/-- Passes over the zeros in front of a number and any number of `_` among them. The last zero
stays when the number is zero. A minus may stand after the zeros, not in place of them. -/
def dropLeadingZeros? (cs : List Char) : Option (List Char) :=
  let isPassed (c : Char) : Bool := c == '0' || c == '_'
  let endsWithZero := (cs.takeWhile isPassed).getLast? == some '0'
  match cs.head?, cs.dropWhile isPassed with
  | some '0', [] => if endsWithZero then some ['0'] else none
  | some '0', '.' :: fraction => if endsWithZero then some ('0' :: '.' :: fraction) else none
  | some '0', c :: rest => if c.isDigit || c == '-' then some (c :: rest) else none
  | some c, _ => if c.isDigit then some cs else none
  | none, _ => none

/-- The whole number that a text stands for after a sign, which is given back to it. -/
def intAfterSign? (sign cs : List Char) : Option Int := do
  let number ← dropLeadingZeros? cs
  let whole ← dropZeroFraction? number
  let digits ← dropSeparators? whole
  signedOfDigits? (sign ++ digits)

/-- The whole number that a text stands for: at most one sign, digits with single `_` between them,
and possibly a fraction of zeros. Zeros in front do not count. -/
def intOfText? (s : String) : Option Int :=
  match s.toList with
  | '-' :: cs => intAfterSign? ['-'] cs
  | '+' :: cs => intAfterSign? [] cs
  | cs => intAfterSign? [] cs

namespace Value

/-- Whether a value says nothing: null, or a text of space alone. -/
def isBlank : Value → Bool
  | .null => true
  | .str s => Text.isBlank s
  | _ => false

/-- A text value without the space at its ends; any other value as it is. -/
def trimmed : Value → Value
  | .str s => .str (Text.trim s)
  | value => value

/-- The truth value that a value stands for. -/
def toBool? : Value → Option Bool
  | .bool b => some b
  | .int n => boolOfInt? n
  | .float x => x.toInt?.bind boolOfInt?
  | .str s => boolOfWord? s
  | _ => none

/-- The whole number that a value stands for. A double counts when it has no fraction and its
magnitude is below `2 ^ 63`. -/
def toInt? : Value → Option Int
  | .bool b => some (if b then 1 else 0)
  | .int n => some n
  | .float x => x.toInt?.filter fun n => n.natAbs < wholeBound
  | .str s => intOfText? s
  | _ => none

end Value

end OrmMapping
