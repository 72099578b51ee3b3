import OrmMapping.Keyed
import OrmMapping.Number.Shortest
import OrmMapping.Text.Quoted
import OrmMapping.Text.Segments

/-!
# Values

Annotations hold values of any shape: what a JSON text can say, with whole numbers of any size
apart from doubles and with maps in order.

* `Value`: the type;
* `Value.shown`: a value as it is shown inside a message or another value;
* `Value.text`: a value as text, where a text is itself and everything else is as shown;
* `Value.same`: equality as a test, which makes equality of values decidable.
-/

namespace OrmMapping

/-- A value of any shape. -/
inductive Value where
  | null
  | bool (b : Bool)
  | int (n : Int)
  | float (x : Binary64)
  | str (s : String)
  | list (items : List Value)
  | map (entries : List (String × Value))
deriving Inhabited

namespace Value

/-- The two truth values as they are shown. -/
def shownBool (b : Bool) : String :=
  if b then "True" else "False"

mutual

/-- A value as it is shown: texts quoted, lists and maps in brackets. -/
def shown : Value → String
  | .null => "None"
  | .bool b => shownBool b
  | .int n => toString n
  | .float x => x.text
  | .str s => Text.quoted s
  | .list items => "[" ++ Text.joinWith ", " (shownItems items) ++ "]"
  | .map entries => "\x7b" ++ Text.joinWith ", " (shownEntries entries) ++ "\x7d"

/-- The items of a list, each as shown. -/
def shownItems : List Value → List String
  | [] => []
  | item :: rest => item.shown :: shownItems rest

/-- The entries of a map, each as shown. -/
def shownEntries : List (String × Value) → List String
  | [] => []
  | (key, value) :: rest => (Text.quoted key ++ ": " ++ value.shown) :: shownEntries rest

end

/-- A value as text. -/
def text : Value → String
  | .str s => s
  | value => value.shown

instance : Repr Value := ⟨fun value _ => value.shown⟩

/-! ## Equality -/

mutual

/-- Whether two values are equal. -/
def same : Value → Value → Bool
  | .null, .null => true
  | .bool a, .bool b => a == b
  | .int a, .int b => a == b
  | .float a, .float b => a == b
  | .str a, .str b => a == b
  | .list xs, .list ys => sameItems xs ys
  | .map xs, .map ys => sameEntries xs ys
  | _, _ => false

/-- Whether two lists hold equal values in the same order. -/
def sameItems : List Value → List Value → Bool
  | [], [] => true
  | x :: xs, y :: ys => x.same y && sameItems xs ys
  | _, _ => false

/-- Whether two maps hold the same keys with equal values in the same order. -/
def sameEntries : List (String × Value) → List (String × Value) → Bool
  | [], [] => true
  | (j, x) :: xs, (k, y) :: ys => j == k && x.same y && sameEntries xs ys
  | _, _ => false

end

mutual

/-- `same` decides equality. The three are proved together, along the mutual recursion of the
definitions. -/
theorem same_iff : (a b : Value) → (a.same b = true ↔ a = b)
  | .null, b => by cases b <;> simp [same]
  | .bool _, b => by cases b <;> simp [same]
  | .int _, b => by cases b <;> simp [same]
  | .float _, b => by cases b <;> simp [same]
  | .str _, b => by cases b <;> simp [same]
  | .list xs, b => by cases b <;> simp [same, sameItems_iff xs]
  | .map xs, b => by cases b <;> simp [same, sameEntries_iff xs]

theorem sameItems_iff : (xs ys : List Value) → (sameItems xs ys = true ↔ xs = ys)
  | [], ys => by cases ys <;> simp [sameItems]
  | x :: xs, ys => by cases ys <;> simp [sameItems, same_iff x, sameItems_iff xs]

theorem sameEntries_iff : (xs ys : List (String × Value)) → (sameEntries xs ys = true ↔ xs = ys)
  | [], ys => by cases ys <;> simp [sameEntries]
  | (j, x) :: xs, ys => by
    cases ys <;> simp [sameEntries, same_iff x, sameEntries_iff xs, Prod.ext_iff]

end

instance : DecidableEq Value := fun a b => decidable_of_iff _ (same_iff a b)

end Value

end OrmMapping
