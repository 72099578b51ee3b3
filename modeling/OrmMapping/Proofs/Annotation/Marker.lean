import OrmMapping.Dialect
import OrmMapping.Proofs.Property.Agreement

/-!
# The classic mark and flags

A class is marked in the classic vocabulary by a key that is read like a flag, but not by the reader
of flags: an ill-written mark makes no persistent class, where an ill-written flag is refused. The
two rules agree on every value but maps. A map counts as a flag that is set, and does not count as a
mark, since no truth value comes of it.

* `Value.isMap`: the values that the rules tell apart;
* `flag_of_present_eq`, `isEntity_of_mark`: what each rule makes of a value;
* `isEntity_iff_flag`: both together.
-/

namespace OrmMapping

/-- Whether a value is a map. -/
def Value.isMap : Value → Bool
  | .map _ => true
  | .null | .bool _ | .int _ | .float _ | .str _ | .list _ => false

variable {a : Annotations} {key : String} {value : Value} {entries : Keyed Value} {standard : Bool}

/-! ## What becomes of a value -/

/-- A map is not blank, and no truth value comes of it. -/
theorem toBool?_of_isMap (h : value.isMap = true) :
    value.isBlank = false ∧ value.trimmed.toBool? = none := by
  cases value with
  | map entries => exact ⟨rfl, rfl⟩
  | _ => cases h

/-- If a map stands under `key`, then the flag is set, whatever the map holds. -/
theorem flag_of_isMap (h : a.entries.get? key = some value) (hmap : value.isMap = true) :
    a.flag key standard = .ok true := by
  unfold Annotations.flag
  rw [h]
  cases value with
  | map entries => rfl
  | _ => cases hmap

/-- A flag that is no map is set without a value, else as its value says, and refused when this is
no truth value. -/
theorem flag_of_present_eq (h : a.entries.get? key = some value) (hmap : value.isMap = false) :
    a.flag key standard =
      if value.isBlank then .ok true
      else value.trimmed.toBool?.elim
        (.error (a.malformed (.notBoolean key value.trimmed))) .ok := by
  -- the cases of the reader: absent, a map, or any other value
  unfold Annotations.flag
  rw [h]
  split
  · next habsent => cases habsent
  · next hvalue =>
    cases hvalue
    cases hmap
  · next other _ hvalue =>
    cases hvalue
    split
    · rfl
    · cases value.trimmed.toBool? <;> rfl

/-- Without the modern mark, the value of the classic one decides: blank or true. -/
theorem isEntity_of_mark (hmark : entries.get? Dialect.classicMarker = some value)
    (hmodern : entries.has Dialect.modernMarker = false) :
    isEntity entries = (value.isBlank || value.trimmed.toBool?.getD false) := by
  unfold isEntity
  rw [hmodern, hmark]
  rfl

/-! ## Both rules -/

/-- The mark makes a persistent class exactly when it is set as a flag, and makes none exactly when
the flag is not set or is refused; a map is set as a flag and makes none. -/
theorem isEntity_iff_flag (entity : String)
    (hmark : entries.get? Dialect.classicMarker = some value)
    (hmodern : entries.has Dialect.modernMarker = false) :
    (value.isMap = false →
      (isEntity entries = true ↔
        ({ entries, entity } : Annotations).flag Dialect.classicMarker = .ok true) ∧
      (isEntity entries = false ↔
        ({ entries, entity } : Annotations).flag Dialect.classicMarker = .ok false ∨
        Refused (({ entries, entity } : Annotations).flag Dialect.classicMarker))) ∧
    (value.isMap = true →
      isEntity entries = false ∧
      ({ entries, entity } : Annotations).flag Dialect.classicMarker = .ok true) := by
  have hpresent : ({ entries, entity } : Annotations).entries.get? Dialect.classicMarker =
      some value := hmark
  -- both rules are functions of `value` from here on
  rw [isEntity_of_mark hmark hmodern]
  constructor
  · intro hmap
    rw [flag_of_present_eq hpresent hmap]
    cases hblank : value.isBlank with
    | true => simp [Refused]
    | false =>
      -- no truth value is no mark for one rule and an error for the other
      cases htruth : value.trimmed.toBool? with
      | none => simp [Refused]
      | some b => cases b <;> simp [Refused]
  · intro hmap
    obtain ⟨hblank, htruth⟩ := toBool?_of_isMap hmap
    rw [hblank, htruth]
    exact ⟨rfl, flag_of_isMap hpresent hmap⟩

/-- The annotations of a class with this mark. -/
def markedWith (mark : Value) : Keyed Value :=
  [("table", .str "cars"), ("persistent", mark)]

/-- The mark of `markedWith mark` is `mark`. -/
theorem get?_markedWith (mark : Value) :
    (markedWith mark).get? Dialect.classicMarker = some mark :=
  rfl

theorem isEntity_iff_flag_marks :
    isEntity (markedWith (.str "\u2003Yes\n")) = true ∧
    ({ entries := markedWith (.str "\u2003Yes\n"), entity := "Car" } : Annotations).flag
      "persistent" = .ok true ∧
    isEntity (markedWith (.list [.bool true])) = false ∧
    Refused (({ entries := markedWith (.list [.bool true]), entity := "Car" } : Annotations).flag
      "persistent") ∧
    isEntity (markedWith (.map [])) = false ∧
    ({ entries := markedWith (.map []), entity := "Car" } : Annotations).flag "persistent" =
      .ok true := by
  have hword := (isEntity_iff_flag "Car" (get?_markedWith (.str "\u2003Yes\n")) rfl).1 rfl
  have hlist := (isEntity_iff_flag "Car" (get?_markedWith (.list [.bool true])) rfl).1 rfl
  have hmap := (isEntity_iff_flag "Car" (get?_markedWith (.map [])) rfl).2 rfl
  have hset : isEntity (markedWith (.str "\u2003Yes\n")) = true := by decide
  have hunset : isEntity (markedWith (.list [.bool true])) = false := by decide
  refine ⟨hset, hword.1.mp hset, hunset, ?_, hmap⟩
  rcases hlist.2.mp hunset with hflag | hrefused
  · cases hflag
  · exact hrefused

/-- A map is set as a flag, and marks no class. -/
theorem mark_apart_from_flag :
    ¬ ∀ (entries : Keyed Value) (value : Value) (entity : String),
      entries.get? Dialect.classicMarker = some value →
      entries.has Dialect.modernMarker = false →
      (isEntity entries = true ↔
        ({ entries, entity } : Annotations).flag Dialect.classicMarker = .ok true) ∧
      (isEntity entries = false ↔
        ({ entries, entity } : Annotations).flag Dialect.classicMarker = .ok false ∨
        Refused (({ entries, entity } : Annotations).flag Dialect.classicMarker)) := by
  intro h
  have hmarked : isEntity (markedWith (.map [])) = true :=
    (h (markedWith (.map [])) (.map []) "Car" (get?_markedWith (.map [])) rfl).1.mpr rfl
  have hunmarked : isEntity (markedWith (.map [])) = false := by decide
  rw [hmarked] at hunmarked
  cases hunmarked

end OrmMapping
