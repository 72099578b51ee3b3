import OrmMapping.Proofs.Annotation.Footprint

/-!
# Shorthand for nested sets

Where a set is expected, a single value is shorthand for a set of one entry. Two annotation sets can
be the same but for values that the second one spells out; nothing that is read tells them apart, as
long as a value is spelled out only where a set is read, and with the entry that it stands for.

* `Value.isShorthand`: values that are shorthand for a set;
* `SpelledOut`: entries that are the same but for shorthand;
* `spelledOut_put`: spelling out one value;
* `SpelledOut.alikeUnder`: what is read is the same;
* `Annotations.SpelledOut`: the same for annotation sets.
-/

namespace OrmMapping

/-- Whether a value is shorthand for a set: one that is no set itself, says something, and is more
than a mark. -/
def Value.isShorthand : Value → Bool
  | .map _ => false
  | .bool _ => false
  | value => !value.isBlank

/-- The same entries but for shorthand that is spelled out. The table has the keys under which a set
is read, each with the entry that shorthand stands for. -/
def SpelledOut (table : Keyed String) (entries entries' : Keyed Value) : Prop :=
  ∀ key, entries'.get? key = entries.get? key ∨
    ∃ shorthand value, table.get? key = some shorthand ∧ value.isShorthand = true ∧
      entries.get? key = some value ∧ entries'.get? key = some (.map [(shorthand, value)])

variable {table : Keyed String} {entries entries' : Keyed Value} {key shorthand : String}
  {value : Value}

/-- Shorthand is read as a set with one entry, under the name that it stands for. -/
theorem nestedEntries_of_isShorthand (h : value.isShorthand = true) :
    Annotations.nestedEntries shorthand value = [(shorthand, value)] := by
  cases value with
  | map entries => cases h
  | bool b => cases h
  | null => cases h
  | int n => rfl
  | float x => rfl
  | list items => rfl
  | str s =>
    have hfilled : (Value.str s).isBlank = false := by simpa [Value.isShorthand] using h
    simp [Annotations.nestedEntries, hfilled]

namespace SpelledOut

/-- Nothing need be spelled out. -/
theorem refl (table : Keyed String) (entries : Keyed Value) : SpelledOut table entries entries :=
  fun _ => .inl rfl

/-- Under a key where no set is read nothing is spelled out. -/
theorem get?_eq (h : SpelledOut table entries entries') (hkey : table.get? key = none) :
    entries'.get? key = entries.get? key := by
  rcases h key with heq | ⟨shorthand, value, hread, -⟩
  · exact heq
  · rw [hkey] at hread
    cases hread

/-- Spelling out does not change which keys are present. -/
theorem has_eq (h : SpelledOut table entries entries') (key : String) :
    entries'.has key = entries.has key := by
  rcases h key with heq | ⟨shorthand, value, -, -, hvalue, hset⟩
  · rw [Keyed.has, Keyed.has, heq]
  · rw [Keyed.has, Keyed.has, hvalue, hset]
    rfl

end SpelledOut

/-- Spelling out the value of one key, where `table` has that key. -/
theorem spelledOut_put (hkey : table.get? key = some shorthand)
    (hvalue : entries.get? key = some value) (h : value.isShorthand = true) :
    SpelledOut table entries (entries.put key (.map [(shorthand, value)])) := by
  intro other
  rw [Keyed.get?_put]
  split
  · next heq =>
    subst heq
    exact .inr ⟨shorthand, value, hkey, h, hvalue, rfl⟩
  · exact .inl rfl

/-- Whether no set is read under a key under which a value is read. -/
def ReadKeys.areApart (keys : ReadKeys) : Bool :=
  keys.values.all fun key => (keys.sets.get? key).isNone

/-- What is read under `keys` is the same when shorthand is spelled out where sets are read;
`hapart` says that no value is read there. -/
theorem SpelledOut.alikeUnder {keys : ReadKeys} (h : SpelledOut keys.sets entries entries')
    (hapart : keys.areApart = true) : AlikeUnder keys entries entries' := by
  refine ⟨fun key hkey => h.get?_eq ?_, fun key _ => h.has_eq key, fun key shorthand hread => ?_⟩
  · exact Option.isNone_iff_eq_none.mp (List.all_eq_true.mp hapart key hkey)
  · -- the set that is read is the same, whether or not it is spelled out
    rcases h key with heq | ⟨other, value, hother, hvalue, hbefore, hset⟩
    · rw [heq]
    · rw [hread] at hother
      cases hother
      rw [hbefore, hset]
      exact (nestedEntries_of_isShorthand hvalue).symm

/-- Annotation sets that are the same but for shorthand. -/
structure Annotations.SpelledOut (table : Keyed String) (a a' : Annotations) : Prop where
  entity : a'.entity = a.entity
  owner : a'.owner = a.owner
  entries : OrmMapping.SpelledOut table a.entries a'.entries

/-- Annotation sets of one entity and owner are alike under `keys` when one is the other with its
shorthand spelled out. `hapart` says that no key is read both as a value and as a set. -/
theorem Annotations.SpelledOut.alikeUnder {keys : ReadKeys} {a a' : Annotations}
    (h : a.SpelledOut keys.sets a') (hapart : keys.areApart = true) : a.AlikeUnder keys a' :=
  ⟨h.entity, h.owner, h.entries.alikeUnder hapart⟩

end OrmMapping
