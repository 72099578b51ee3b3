import OrmMapping.Text.Segments

/-!
# Violations

Where a value is not of the shape that is asked for: the place, as the path of keys and positions
that leads there, and what was expected.

* `Violation`, `Checked`: one violation, and an outcome that lists them all;
* `Checked.both`: two outcomes at once, so that the violations of both are found;
* `Violation.summary`: the first of several violations with their number.
-/

namespace OrmMapping

/-- What was expected of a value. -/
inductive Expectation where
  | json
  | present
  | string
  | object
  | array
  | list
  | sequence
  | path
  | boolean
  | booleanWord
deriving DecidableEq, Repr

/-- The expectation in words. -/
def Expectation.message : Expectation → String
  | .json => "Invalid JSON"
  | .present => "Field required"
  | .string => "Input should be a valid string"
  | .object => "Input should be an object"
  | .array => "Input should be a valid array"
  | .list => "Input should be a valid list"
  | .sequence => "Input should be a valid tuple"
  | .path => "Input is not a valid path for <class 'pathlib.Path'>"
  | .boolean => "Input should be a valid boolean"
  | .booleanWord => "Input should be a valid boolean, unable to interpret input"

/-- A place and what was expected there. -/
structure Violation where
  place : List String
  expected : Expectation
deriving DecidableEq, Repr

/-- A value, or all the violations that keep it from being read, in order. -/
abbrev Checked (α : Type) := Except (List Violation) α

namespace Checked

variable {α β : Type}

/-- A single violation. -/
def refuse (place : List String) (expected : Expectation) : Checked α :=
  .error [⟨place, expected⟩]

/-- Both values, or the violations of the first followed by those of the second. -/
def both (x : Checked α) (y : Checked β) : Checked (α × β) :=
  match x, y with
  | .ok a, .ok b => .ok (a, b)
  | .ok _, .error es => .error es
  | .error es, .ok _ => .error es
  | .error es, .error fs => .error (es ++ fs)

/-- `both` has a result exactly when each of the two has, and then it is the pair. -/
theorem both_eq_ok {x : Checked α} {y : Checked β} {a : α} {b : β} :
    both x y = .ok (a, b) ↔ x = .ok a ∧ y = .ok b := by
  cases x <;> cases y <;> simp [both]

/-- All values of a list, or the violations of all. -/
def all : List (Checked α) → Checked (List α)
  | [] => .ok []
  | x :: rest => (both x (all rest)).map fun (a, as) => a :: as

/-- The values of a list, each checked at its position. -/
def indexed (place : List String) (check : List String → β → Checked α) (items : List β) :
    Checked (List α) :=
  all (items.zipIdx.map fun (item, i) => check (place ++ [toString i]) item)

end Checked

namespace Violation

/-- The place with dots between its steps. -/
def placeText (place : List String) : String :=
  let joined := Text.joinWith "." place
  if joined.isEmpty then "<root>" else joined

/-- The first violation and the number of all. -/
def summary : List Violation → String
  | [] => ""
  | first :: rest =>
    placeText first.place ++ ": " ++ first.expected.message ++
      " (" ++ toString (rest.length + 1) ++ " error(s))"

end Violation

end OrmMapping
