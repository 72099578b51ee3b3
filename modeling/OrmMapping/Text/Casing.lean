import OrmMapping.Text.CasingTable

/-!
# Lower case

Full lower-casing of a text. Two letters need more than a table of single partners: a dotted
capital `İ` becomes `i` and a combining dot, and a capital sigma becomes the final form `ς` at the
end of a word.

* `lower`: the text in lower case;
* `isFinalSigma`: where the final form stands.
-/

namespace OrmMapping.Text

/-- The lower-case partner of a character, itself when it has none. -/
def lowerChar (c : Char) : Char :=
  if c.toNat < 0x80 then
    if 0x41 ≤ c.toNat && c.toNat ≤ 0x5A then Char.ofNat (c.toNat + 0x20) else c
  else
    match lowerRuns.findSome? (·.lower? c.toNat) with
    | some n => Char.ofNat n
    | none => c

/-- A cased character that is not case-ignorable. -/
def isCased (c : Char) : Bool :=
  casedRanges.has c

/-- A character that a look for the neighbouring letter steps over. -/
def isCaseIgnorable (c : Char) : Bool :=
  caseIgnorableRanges.has c

/-- Whether the nearest character that counts is a cased letter. -/
def meetsCased (cs : List Char) : Bool :=
  match cs.dropWhile isCaseIgnorable with
  | [] => false
  | c :: _ => isCased c

/-- A capital sigma takes its final form after a cased letter and before none. The characters
before it are given nearest first. -/
def isFinalSigma (before after : List Char) : Bool :=
  meetsCased before && !meetsCased after

/-- The lower-case form of `c` between the characters before it, nearest first, and after it. -/
def lowerAt (before : List Char) (c : Char) (after : List Char) : List Char :=
  if c == 'Σ' then
    if isFinalSigma before after then ['ς'] else ['σ']
  else if c == 'İ' then
    ['i', '\u0307']
  else
    [lowerChar c]

/-- Lower-cases `cs`, given the characters that stand before it, nearest first. -/
def lowerFrom (before : List Char) : List Char → List Char
  | [] => []
  | c :: after => lowerAt before c after ++ lowerFrom (c :: before) after

/-- The text in lower case. -/
def lower (s : String) : String :=
  String.ofList (lowerFrom [] s.toList)

/-- The characters of a text in lower case, which laws about `lower` are proved on. -/
@[simp] theorem toList_lower (s : String) : (lower s).toList = lowerFrom [] s.toList := by
  simp [lower]

end OrmMapping.Text
