/-!
# The order of texts

Texts are ordered by their code points, and lists of texts by their first difference; what is cut
off short comes first.

* `charsAtMost`, `atMost`: the order of texts;
* `allAtMost`: the order of lists of texts.
-/

namespace OrmMapping.Text

/-- Whether `cs` comes before `ds` or is equal to it. -/
def charsAtMost : (cs ds : List Char) → Bool
  | [], _ => true
  | _ :: _, [] => false
  | c :: cs, d :: ds =>
    if c == d then charsAtMost cs ds else c.toNat.blt d.toNat

/-- Whether `s` comes before `t` or is equal to it. -/
def atMost (s t : String) : Bool :=
  charsAtMost s.toList t.toList

/-- Whether the list `ss` comes before `ts` or is equal to it. -/
def allAtMost : (ss ts : List String) → Bool
  | [], _ => true
  | _ :: _, [] => false
  | s :: ss, t :: ts => if s == t then allAtMost ss ts else atMost s t

end OrmMapping.Text
