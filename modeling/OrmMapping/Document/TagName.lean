import OrmMapping.Fault
import OrmMapping.Text.Ranges
import OrmMapping.Text.UriReference

/-!
# Tags

The tag of an element is a name, and before it in braces the namespace of the name, if it has one:
`bag` and `{urn:cars}bag`. What XML forbids in tags and texts is told here.

* `isXmlText`: the texts that a document may hold;
* `TagName.ofString`: a tag in its two parts;
* `TagName.fault?`: what is wrong with a tag.
-/

namespace OrmMapping

/-! ## Characters -/

/-- Whether a document may hold the character: no control characters but tab and line ends, and
not the two code points that are no characters at the end of the first plane. -/
def isXmlChar (c : Char) : Bool :=
  let n := c.toNat
  n == 0x9 || n == 0xA || n == 0xD || (0x20 ≤ n && n != 0xFFFE && n != 0xFFFF)

/-- Whether a document may hold the text. -/
def isXmlText (s : String) : Bool :=
  s.toList.all isXmlChar

/-- Characters a name may begin with, the colon left out, which would divide it. -/
def nameStartRanges : Text.Ranges :=
  [(0x41, 0x5A), (0x5F, 0x5F), (0x61, 0x7A), (0xC0, 0xD6), (0xD8, 0xF6), (0xF8, 0x2FF),
   (0x370, 0x37D), (0x37F, 0x1FFF), (0x200C, 0x200D), (0x2070, 0x218F), (0x2C00, 0x2FEF),
   (0x3001, 0xD7FF), (0xF900, 0xFDCF), (0xFDF0, 0xFFFD), (0x10000, 0xEFFFF)]

/-- Further characters a name may go on with. -/
def nameRanges : Text.Ranges :=
  [(0x2D, 0x2E), (0x30, 0x39), (0xB7, 0xB7), (0x300, 0x36F), (0x203F, 0x2040)]

/-- Whether a text may be the name in a tag. -/
def isElementName (s : String) : Bool :=
  match s.toList with
  | [] => false
  | c :: rest =>
    nameStartRanges.has c && rest.all fun c => nameStartRanges.has c || nameRanges.has c

/-! ## Tags -/

/-- A tag in its parts: the namespace, if there is one, and the name. -/
structure TagName where
  space : Option String := none
  name : String
deriving DecidableEq, Repr

namespace TagName

/-- The parts of a tag. Empty braces stand for no namespace. -/
def ofString (tag : String) : Except DocumentFault TagName :=
  match tag.toList with
  | [] => .error .emptyTag
  | '\x7b' :: rest =>
    match rest.dropWhile (· != '\x7d') with
    | [] => .error .unclosedNamespace
    | _ :: [] => .error .emptyTag
    | _ :: name =>
      let space := rest.takeWhile (· != '\x7d')
      .ok ⟨if space.isEmpty then none else some (String.ofList space), String.ofList name⟩
  | _ => .ok ⟨none, tag⟩

/-- What is wrong with the parts of a tag. -/
def partsFault? (t : TagName) : Option DocumentFault :=
  if !isElementName t.name then some (.invalidTag t.name)
  else
    match t.space with
    | none => none
    | some space => if Text.isUriReference space then none else some (.invalidNamespace space)

/-- What is wrong with a tag. -/
def fault? (tag : String) : Option DocumentFault :=
  if !isXmlText tag then some .forbiddenText
  else
    match ofString tag with
    | .error fault => some fault
    | .ok t => t.partsFault?

end TagName

end OrmMapping
