import OrmMapping.Text.Segments

/-!
# Paths

A path is where it starts and the names that lead on from there. Empty names and `.` mean nothing
and are dropped when a path is read; `..` is kept, since what it means depends on the files.

* `Path.ofString`, `Path.text`: reading and writing;
* `Path.join`, `Path.parent`, `Path.name`, `Path.suffix`: parts and combinations.
-/

namespace OrmMapping

/-- Where a path starts. Two slashes at the front are kept apart from one. -/
inductive Anchor where
  | workingDirectory
  | root
  | doubleRoot
deriving DecidableEq, Repr

/-- The anchor as it is written. -/
def Anchor.text : Anchor → String
  | .workingDirectory => ""
  | .root => "/"
  | .doubleRoot => "//"

/-- A path: its start and the names after it. -/
structure Path where
  anchor : Anchor := .workingDirectory
  parts : List String := []
deriving DecidableEq, Repr

namespace Path

/-- The start of a written path. -/
def anchorOf : List Char → Anchor
  | '/' :: '/' :: '/' :: _ => .root
  | '/' :: '/' :: _ => .doubleRoot
  | '/' :: _ => .root
  | _ => .workingDirectory

/-- Whether a name between slashes leads anywhere. -/
def isStep (part : String) : Bool :=
  !part.isEmpty && part != "."

/-- The path that a text stands for. -/
def ofString (s : String) : Path :=
  ⟨anchorOf s.toList, (Text.splitOn '/' s).filter isStep⟩

/-- A text without slashes is the path of that one name. -/
theorem ofString_of_isStep {name : String} (hslash : '/' ∉ name.toList)
    (hstep : isStep name = true) : ofString name = ⟨.workingDirectory, [name]⟩ := by
  have hanchor : anchorOf name.toList = .workingDirectory := by
    unfold anchorOf
    split
    · next heq => exact absurd (heq ▸ List.mem_cons_self) hslash
    · next heq => exact absurd (heq ▸ List.mem_cons_self) hslash
    · next heq => exact absurd (heq ▸ List.mem_cons_self) hslash
    · rfl
  rw [ofString, hanchor, Text.splitOn_of_not_mem hslash, List.filter_cons_of_pos hstep,
    List.filter_nil]

/-- A text with an ending of two characters or more, none of them a slash, is a path whose last name
has that ending. -/
theorem exists_ofString_append {ending : String} (hslash : '/' ∉ ending.toList)
    (hlong : 2 ≤ ending.length) (s : String) :
    ∃ above stem, '/' ∉ stem.toList ∧
      ofString (s ++ ending) = ⟨anchorOf (s ++ ending).toList, above ++ [stem ++ ending]⟩ := by
  obtain ⟨front, last, hsplit, hmore⟩ := Text.splitChars_append_of_not_mem hslash s.toList
  have hmem : last ∈ Text.splitChars '/' s.toList := by
    rw [hsplit]
    exact List.mem_append_right _ (List.mem_singleton_self last)
  have hlast : '/' ∉ last := Text.not_mem_of_mem_splitChars hmem
  have hparts : Text.splitOn '/' (s ++ ending) =
      front.map String.ofList ++ [String.ofList last ++ ending] := by
    simp [Text.splitOn, hmore]
  have hstep : isStep (String.ofList last ++ ending) = true := by
    have hlength : 2 ≤ (String.ofList last ++ ending).length := by
      rw [String.length_append]
      omega
    have hempty : String.ofList last ++ ending ≠ "" := by
      intro heq
      rw [heq] at hlength
      revert hlength
      decide
    have hdot : String.ofList last ++ ending ≠ "." := by
      intro heq
      rw [heq] at hlength
      revert hlength
      decide
    rw [isStep, Bool.and_eq_true]
    exact ⟨by simpa using hempty, by simpa using hdot⟩
  refine ⟨(front.map String.ofList).filter isStep, String.ofList last, ?_, ?_⟩
  · simpa using hlast
  · rw [ofString, hparts, List.filter_append, List.filter_cons_of_pos hstep, List.filter_nil]

/-- The path as written; one that leads nowhere is `.`. -/
def text (p : Path) : String :=
  let written := p.anchor.text ++ Text.joinWith "/" p.parts
  if written.isEmpty then "." else written

/-- No name of the path has a null character. -/
def NullFree (p : Path) : Prop :=
  ∀ name ∈ p.parts, '\x00' ∉ name.toList

instance (p : Path) : Decidable p.NullFree :=
  inferInstanceAs (Decidable (∀ name ∈ p.parts, '\x00' ∉ name.toList))

/-- The second path from where the first leads; a path with a start of its own stays as it is. -/
def join (p q : Path) : Path :=
  match q.anchor with
  | .workingDirectory => ⟨p.anchor, p.parts ++ q.parts⟩
  | _ => q

/-- The path without its last name. -/
def parent (p : Path) : Path :=
  ⟨p.anchor, p.parts.dropLast⟩

/-- The last name, empty when there is none. -/
def name (p : Path) : String :=
  p.parts.getLast?.getD ""

/-- The suffix of a name: from its last dot on, unless that is its first or last character. -/
def suffixOf (name : String) : String :=
  let cs := name.toList
  let after := Text.lastSegmentChars cs
  if after.isEmpty || cs.length ≤ after.length + 1 then "" else String.ofList ('.' :: after)

/-- The suffix of the last name. -/
def suffix (p : Path) : String :=
  suffixOf p.name

/-- A name without its suffix. -/
def stemOf (name : String) : String :=
  String.ofList (name.toList.take (name.toList.length - (suffixOf name).toList.length))

end Path

end OrmMapping
