import OrmMapping.Annotation.Coercion
import OrmMapping.Annotation.PairNotation
import OrmMapping.Json.Reader
import OrmMapping.Report

/-!
# Annotation sets

An annotation set is a map from lower-case keys to values of any shape, together with the names
that its errors mention. Values are brought to the wanted kind when they are read; a value that
says nothing (null, or a text of space) counts as absent, except that a flag named without a value
is set.

* `Annotations.text?`, `Annotations.flag`, `Annotations.integer?`: one value of each kind;
* `Annotations.nested`: the set under a key, with a single value as shorthand for one entry;
* `Annotations.parameters`: named parameters in order, in any of three notations.
-/

namespace OrmMapping

/-- An annotation set with the entity it belongs to, and the property or nested map, if any. -/
structure Annotations where
  entries : Keyed Value
  entity : String
  owner : Option String := none
deriving Repr

namespace Annotations

/-- The error that a fault in this set is. -/
def malformed (a : Annotations) (fault : Fault) : MappingError :=
  .malformed a.entity a.owner fault

/-- Whether the key is present, with or without a value. -/
def has (a : Annotations) (key : String) : Bool :=
  a.entries.has key

/-- The value under a key, null when the key is absent. -/
def value (a : Annotations) (key : String) : Value :=
  (a.entries.get? key).getD .null

/-- Truth values as they are written in mapping documents. -/
def boolText (b : Bool) : String :=
  if b then "true" else "false"

/-- The items of a list that say something, without space around them, joined by commas. -/
def listText (items : List Value) : String :=
  Text.joinWith "," ((items.filter fun v => !v.isBlank).map fun v => Text.trim v.text)

/-- The text under a key: none when the value says nothing, and refused when it is a map. -/
def text? (a : Annotations) (key : String) : Except MappingError (Option String) :=
  let value := a.value key
  if value.isBlank then .ok none
  else
    match value with
    | .bool b => .ok (some (boolText b))
    | .list items =>
      let joined := listText items
      .ok (if joined.isEmpty then none else some joined)
    | .map _ => .error (a.malformed (.notScalar key))
    | value => .ok (some (Text.trim value.text))

/-- The truth value under a key: `standard` when the key is absent, true for a key without a value
or with a map. -/
def flag (a : Annotations) (key : String) (standard : Bool := false) : Except MappingError Bool :=
  match a.entries.get? key with
  | none => .ok standard
  | some (.map _) => .ok true
  | some value =>
    if value.isBlank then .ok true
    else
      match value.trimmed.toBool? with
      | some b => .ok b
      | none => .error (a.malformed (.notBoolean key value.trimmed))

/-- The truth value under a key, none when the key is absent. -/
def optionalFlag (a : Annotations) (key : String) : Except MappingError (Option Bool) :=
  if a.has key then (a.flag key).map some else .ok none

/-- The whole number under a key, none when the value says nothing. -/
def integer? (a : Annotations) (key : String) : Except MappingError (Option Int) :=
  let value := a.value key
  if value.isBlank then .ok none
  else
    match value.trimmed.toInt? with
    | some n => .ok (some n)
    | none => .error (a.malformed (.notInteger key value.trimmed))

/-- The owner of the set nested under a key. -/
def nestedOwner (a : Annotations) (key : String) : String :=
  match a.owner with
  | some name => if name.isEmpty then key else name ++ "." ++ key
  | none => key

/-- The entries of the set nested under a key. A single value is shorthand for one entry under
`shorthand`; a value that says nothing, or that only marks the key, is an empty set. -/
def nestedEntries (shorthand : String) : Value → Keyed Value
  | .map entries => entries
  | .bool _ => []
  | value => if value.isBlank then [] else [(shorthand, value)]

/-- The annotation set nested under a key. -/
def nested (a : Annotations) (key : String) (shorthand : String := "name") : Annotations :=
  ⟨nestedEntries shorthand (a.value key), a.entity, some (a.nestedOwner key)⟩

/-- A parameter value as text; null is empty. -/
def parameterText : Value → String
  | .bool b => boolText b
  | .null => ""
  | value => value.text

/-- The parameters that the entries of a map give. -/
def parameterList (entries : Keyed Value) : List (String × String) :=
  entries.map fun (name, value) => (name, parameterText value)

/-- The parameters that a text gives: a JSON map, or else pair notation. -/
def parametersOfText? (text : String) : Option (List (String × String)) :=
  match Value.ofJson? text with
  | some (.map entries) => some (parameterList entries)
  | _ => PairNotation.parse? text

/-- The named parameters under a key, in order. A text that is neither of the two notations gives a
warning and no parameters. -/
def parameters (a : Annotations) (key : String) : Report (List (String × String)) :=
  match a.value key with
  | .map entries => pure (parameterList entries)
  | value =>
    if value.isBlank then pure []
    else
      let text := Text.trim value.text
      match parametersOfText? text with
      | some params => pure params
      | none => do
        Report.warn (.unreadableParameters a.entity text)
        return []

end Annotations

end OrmMapping
