import OrmMapping.Json.Value
import OrmMapping.Text.Casing

/-!
# Folding keys

Annotation keys do not distinguish case. Before anything reads them every key is brought to lower
case, at every depth, and keys that then coincide become one entry.

* `Value.foldKeys`: a value with all its keys in lower case;
* `foldEntries`: the same for the entries of one map.
-/

namespace OrmMapping

namespace Value

mutual

/-- The value with every key in lower case, at every depth. -/
def foldKeys : Value → Value
  | .list items => .list (foldItems items)
  | .map entries => .map (Keyed.ofPairs (foldPairs entries))
  | value => value

/-- The items of a list, each with its keys in lower case. -/
def foldItems : List Value → List Value
  | [] => []
  | item :: rest => item.foldKeys :: foldItems rest

/-- The entries of a map with their keys in lower case; equal keys are not merged yet. -/
def foldPairs : List (String × Value) → List (String × Value)
  | [] => []
  | (key, value) :: rest => (Text.lower key, value.foldKeys) :: foldPairs rest

end

/-- Folding the items of a list is folding each of them. -/
theorem foldItems_eq_map (items : List Value) : foldItems items = items.map foldKeys := by
  induction items with
  | nil => rfl
  | cons item rest ih => exact congrArg (_ :: ·) ih

/-- Folding the entries of a map is folding each key and each value. -/
theorem foldPairs_eq_map (entries : List (String × Value)) :
    foldPairs entries = entries.map fun entry => (Text.lower entry.1, entry.2.foldKeys) := by
  induction entries with
  | nil => rfl
  | cons entry rest ih => exact congrArg (_ :: ·) ih

/-- `foldKeys` of a list, item by item. -/
theorem foldKeys_list (items : List Value) :
    (list items).foldKeys = .list (items.map foldKeys) :=
  congrArg list (foldItems_eq_map items)

/-- `foldKeys` of a map: the folded entries are written in turn, so that keys which coincide are
merged. -/
theorem foldKeys_map (entries : Keyed Value) :
    (map entries).foldKeys =
      .map (Keyed.ofPairs (entries.map fun entry => (Text.lower entry.1, entry.2.foldKeys))) := by
  rw [← foldPairs_eq_map]
  rfl

end Value

/-- The entries of an annotation map with their keys in lower case, equal keys merged. -/
def foldEntries (entries : Keyed Value) : Keyed Value :=
  Keyed.ofPairs (Value.foldPairs entries)

end OrmMapping
