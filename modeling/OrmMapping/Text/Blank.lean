/-!
# Blank characters and trimming

What counts as space at the ends of a text and between the parts of a written pair: the separators
of Unicode together with the ASCII control characters that end or divide lines. Zero-width marks
are not space.

* `isBlankChar`, `isBlank`: the class, and texts made of it alone;
* `trim`: a text without the space at its ends.
-/

namespace OrmMapping.Text

/-- Whether `c` is space. -/
def isBlankChar (c : Char) : Bool :=
  let n := c.toNat
  (0x09 ≤ n && n ≤ 0x0D) || (0x1C ≤ n && n ≤ 0x20) || n == 0x85 || n == 0xA0 || n == 0x1680 ||
    (0x2000 ≤ n && n ≤ 0x200A) || n == 0x2028 || n == 0x2029 || n == 0x202F || n == 0x205F ||
    n == 0x3000

/-- A character sequence without the space at its end. -/
def trimRightChars (cs : List Char) : List Char :=
  (cs.reverse.dropWhile isBlankChar).reverse

/-- A character sequence without the space at its ends. -/
def trimChars (cs : List Char) : List Char :=
  trimRightChars (cs.dropWhile isBlankChar)

/-- The text without the space at its ends. -/
def trim (s : String) : String :=
  String.ofList (trimChars s.toList)

/-- Whether the text is empty or all space. -/
def isBlank (s : String) : Bool :=
  s.toList.all isBlankChar

/-- The characters of a trimmed text, which laws about `trim` are proved on. -/
@[simp] theorem toList_trim (s : String) : (trim s).toList = trimChars s.toList := by
  simp [trim]

end OrmMapping.Text
