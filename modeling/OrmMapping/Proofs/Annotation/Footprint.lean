import OrmMapping.Property.Facts

/-!
# What is read of annotations

A vocabulary reads annotations by key: single values under some keys, and sets under others. Two
annotation sets in which the same stands under all of these keys cannot be told apart by reading,
whatever stands under other keys.

* `ReadKeys`: keys under which something is read;
* `AlikeUnder`: entries in which the same is read under such keys;
* `Annotations.AlikeUnder`: the same for annotation sets, with what is read of them.
-/

namespace OrmMapping

/-- Keys under which values are read, and keys under which sets are read, each of these with the
entry that a single value is shorthand for. -/
structure ReadKeys where
  values : List String
  sets : Keyed String

/-- The same is read under the keys. -/
structure AlikeUnder (keys : ReadKeys) (entries entries' : Keyed Value) : Prop where
  values : ∀ key ∈ keys.values, entries'.get? key = entries.get? key
  marks : ∀ key ∈ keys.sets.keys, entries'.has key = entries.has key
  sets : ∀ key shorthand, keys.sets.get? key = some shorthand →
    Annotations.nestedEntries shorthand ((entries'.get? key).getD .null) =
      Annotations.nestedEntries shorthand ((entries.get? key).getD .null)

variable {keys : ReadKeys} {entries entries' : Keyed Value} {key shorthand : String}

/-- Entries are alike to themselves under any keys. -/
theorem AlikeUnder.refl (keys : ReadKeys) (entries : Keyed Value) :
    AlikeUnder keys entries entries :=
  ⟨fun _ _ => rfl, fun _ _ => rfl, fun _ _ _ => rfl⟩

/-- What is alike under `keys` is so under single keys of them, where no set is read. -/
theorem AlikeUnder.of_values (h : AlikeUnder keys entries entries') {values : List String}
    (hvalues : ∀ key ∈ values, key ∈ keys.values) : AlikeUnder ⟨values, []⟩ entries entries' :=
  ⟨fun key hkey => h.values key (hvalues key hkey), fun _ hkey => absurd hkey List.not_mem_nil,
    fun _ _ hkey => by cases hkey⟩

namespace Annotations

/-- Annotation sets of which the same is read under the keys. -/
structure AlikeUnder (keys : ReadKeys) (a a' : Annotations) : Prop where
  entity : a'.entity = a.entity
  owner : a'.owner = a.owner
  entries : OrmMapping.AlikeUnder keys a.entries a'.entries

namespace AlikeUnder

variable {a a' : Annotations} (h : a.AlikeUnder keys a')

include h

/-- Errors mention the same entity and the same owner. -/
theorem malformed_eq (fault : Fault) : a'.malformed fault = a.malformed fault := by
  rw [malformed, malformed, h.entity, h.owner]

/-! ## Sets -/

/-- A key of a set is present in both or in neither. -/
theorem has_set_eq (hkey : key ∈ keys.sets.keys) : a'.has key = a.has key :=
  h.entries.marks key hkey

/-- The sets that are read under a key are the same, shorthand included. -/
theorem nested_eq (hkey : keys.sets.get? key = some shorthand) :
    a'.nested key shorthand = a.nested key shorthand := by
  have hentries : nestedEntries shorthand (a'.value key) = nestedEntries shorthand (a.value key) :=
    h.entries.sets key shorthand hkey
  rw [nested, nested, nestedOwner, nestedOwner, hentries, h.entity, h.owner]

/-! ## Values -/

section Value

variable (hkey : key ∈ keys.values)

include hkey

/-- Under a key where values are read, the same value stands in both. -/
theorem value_eq : a'.value key = a.value key := by
  rw [Annotations.value, Annotations.value, h.entries.values key hkey]

theorem has_eq : a'.has key = a.has key := by
  rw [has, has, Keyed.has, Keyed.has, h.entries.values key hkey]

/-- The same text is read, or the same error is raised. -/
theorem text?_eq : a'.text? key = a.text? key := by
  simp only [text?, h.value_eq hkey, h.malformed_eq]

theorem integer?_eq : a'.integer? key = a.integer? key := by
  simp only [integer?, h.value_eq hkey, h.malformed_eq]

/-- The same flag is read, whatever the standard is. -/
theorem flag_eq (standard : Bool) : a'.flag key standard = a.flag key standard := by
  simp only [flag, h.entries.values key hkey, h.malformed_eq]

theorem optionalFlag_eq : a'.optionalFlag key = a.optionalFlag key := by
  simp only [optionalFlag, h.has_eq hkey, h.flag_eq hkey]

/-- The same parameters are read, with the same warnings. -/
theorem parameters_eq : a'.parameters key = a.parameters key := by
  simp only [parameters, h.value_eq hkey, h.entity]

end Value

/-- The same text is found first among several keys of values. -/
theorem firstText?_eq {among : List String} (hkeys : ∀ key ∈ among, key ∈ keys.values) :
    a'.firstText? among = a.firstText? among := by
  induction among with
  | nil => rfl
  | cons key rest ih =>
    -- the first key may hold no text, so the others are read as well
    have hrest := ih fun key hkey => hkeys key (List.mem_cons_of_mem _ hkey)
    simp only [firstText?, h.text?_eq (hkeys key List.mem_cons_self), hrest]

end AlikeUnder

end Annotations

end OrmMapping
