import Mathlib.Data.List.Forall2
import Mathlib.Data.List.Nodup
import OrmMapping.Annotation.Folding
import OrmMapping.Proofs.Text.Casing

/-!
# Keys without regard to case

Folding brings every key of a value to lower case. Keys that then coincide become one: it stands
where the first of them stood and has the folded value of the last. What comes out is a normal form:
folding leaves it as it is, and values that differ in the case of their keys alone have the same.

* `Value.forall_of_parts`: what is shown for values is shown for their parts first;
* `Value.HasMap`, `Value.IsFolded`: the maps in a value, at any depth, and what folding makes of
  them;
* `Value.MergesTo`: what becomes of the entries of one map;
* `Value.Recased`: values that differ in the case of their keys;
* `Value.foldKeys_of_isFolded`, `Value.Recased.foldKeys_eq`: the normal form;
* `Value.foldKeys_normalizes`: all of this together.
-/

namespace OrmMapping

namespace Keyed

variable {α : Type} {entry : String × α} {entries : Keyed α} {pairs : List (String × α)}
  {key : String} {value : α}

/-- An entry after `put entries key value` is the one that is put, or was there before. -/
theorem mem_of_mem_put (h : entry ∈ put entries key value) :
    entry = (key, value) ∨ entry ∈ entries := by
  induction entries with
  | nil => exact Or.inl (List.mem_singleton.mp h)
  | cons first rest ih =>
    obtain ⟨k, v⟩ := first
    unfold put at h
    split at h
    · -- the key is there already, and only its value is replaced
      next hk =>
      rcases List.mem_cons.mp h with rfl | hrest
      · exact Or.inl (congrArg (·, value) (beq_iff_eq.mp hk))
      · exact Or.inr (List.mem_cons_of_mem _ hrest)
    · rcases List.mem_cons.mp h with rfl | hrest
      · exact Or.inr List.mem_cons_self
      · exact (ih hrest).imp_right (List.mem_cons_of_mem _)

/-- An entry after `putAll entries pairs` is one of `pairs`, or was there before. -/
theorem mem_of_mem_putAll (h : entry ∈ putAll entries pairs) : entry ∈ pairs ∨ entry ∈ entries := by
  induction pairs generalizing entries with
  | nil => exact Or.inr h
  | cons pair rest ih =>
    have hstep : entry ∈ putAll (entries.put pair.1 pair.2) rest := h
    rcases ih hstep with hrest | hput
    · exact Or.inl (List.mem_cons_of_mem _ hrest)
    · rcases mem_of_mem_put hput with rfl | hmem
      · exact Or.inl List.mem_cons_self
      · exact Or.inr hmem

/-- `put` keeps the keys of a map different from one another. -/
theorem nodup_keys_put (key : String) (value : α) (h : entries.keys.Nodup) :
    (put entries key value).keys.Nodup := by
  rw [keys_put]
  split
  · exact h
  · next hnew => simpa using List.Nodup.concat hnew h

/-- `putAll` keeps the keys of a map different from one another. -/
theorem nodup_keys_putAll (pairs : List (String × α)) (h : entries.keys.Nodup) :
    (putAll entries pairs).keys.Nodup := by
  induction pairs generalizing entries with
  | nil => exact h
  | cons pair rest ih => exact ih (nodup_keys_put pair.1 pair.2 h)

/-- Every entry of `ofPairs pairs` is one of `pairs`. -/
theorem mem_of_mem_ofPairs (h : entry ∈ ofPairs pairs) : entry ∈ pairs :=
  (mem_of_mem_putAll h).resolve_right List.not_mem_nil

/-- The keys of a map are in lower case, and none comes twice. -/
structure IsFolded (entries : Keyed α) : Prop where
  lowerCase : ∀ key ∈ entries.keys, Text.lower key = key
  nodup : entries.keys.Nodup

/-- If the keys of `pairs` are in lower case, then `ofPairs pairs` is folded. -/
theorem isFolded_ofPairs (h : ∀ pair ∈ pairs, Text.lower pair.1 = pair.1) :
    (ofPairs pairs).IsFolded := by
  constructor
  · intro key hkey
    obtain ⟨entry, hentry, rfl⟩ := List.mem_map.mp hkey
    exact h entry (mem_of_mem_ofPairs hentry)
  · exact nodup_keys_putAll pairs List.nodup_nil

end Keyed

namespace Value

variable {v v' item : Value} {items : List Value} {entries : Keyed Value}

/-! ## Values and their parts -/

/-- Neither a list nor a map. -/
def isScalar : Value → Bool
  | .list _ | .map _ => false
  | .null | .bool _ | .int _ | .float _ | .str _ => true

/-- What holds of a value when it holds of the items or entries in it holds of every value. -/
@[elab_as_elim]
theorem forall_of_parts {motive : Value → Prop} (v : Value)
    (scalar : ∀ v, v.isScalar = true → motive v)
    (list : ∀ items, (∀ item ∈ items, motive item) → motive (.list items))
    (map : ∀ entries, (∀ entry ∈ entries, motive entry.2) → motive (.map entries)) : motive v :=
  @Value.rec motive (fun items => ∀ item ∈ items, motive item)
    (fun entries => ∀ entry ∈ entries, motive entry.2) (fun entry => motive entry.2)
    (scalar _ rfl) (fun _ => scalar _ rfl) (fun _ => scalar _ rfl) (fun _ => scalar _ rfl)
    (fun _ => scalar _ rfl) list map
    (List.forall_mem_nil _) (fun _ _ hfirst hrest => List.forall_mem_cons.mpr ⟨hfirst, hrest⟩)
    (List.forall_mem_nil _) (fun _ _ hfirst hrest => List.forall_mem_cons.mpr ⟨hfirst, hrest⟩)
    (fun _ _ hvalue => hvalue) v

/-- A value that is neither a list nor a map has no keys to fold. -/
theorem foldKeys_of_isScalar (h : v.isScalar = true) : v.foldKeys = v := by
  cases v with
  | list items => cases h
  | map entries => cases h
  | null => rfl
  | bool b => rfl
  | int n => rfl
  | float x => rfl
  | str s => rfl

/-! ## Maps in values -/

/-- A map with these entries stands in a value, at any depth. -/
inductive HasMap : Value → Keyed Value → Prop
  | self (entries : Keyed Value) : HasMap (.map entries) entries
  | inItem {items : List Value} {item : Value} {entries : Keyed Value} (hmem : item ∈ items)
      (hitem : HasMap item entries) : HasMap (.list items) entries
  | inEntry {others entries : Keyed Value} {entry : String × Value} (hmem : entry ∈ others)
      (hentry : HasMap entry.2 entries) : HasMap (.map others) entries

/-- All maps in a value have keys in lower case, each of them once. -/
def IsFolded (v : Value) : Prop :=
  ∀ entries, v.HasMap entries → entries.IsFolded

/-- In a value that is neither a list nor a map stands no map. -/
theorem isFolded_of_isScalar (h : v.isScalar = true) : v.IsFolded := by
  intro entries hmap
  cases hmap with
  | self => cases h
  | inItem => cases h
  | inEntry => cases h

/-- A list is folded when its items are. -/
theorem isFolded_list_iff : (list items).IsFolded ↔ ∀ item ∈ items, item.IsFolded := by
  constructor
  · exact fun h item hitem entries hmap => h entries (.inItem hitem hmap)
  · intro h entries hmap
    cases hmap with
    | inItem hmem hitem => exact h _ hmem entries hitem

/-- A map is folded when its own keys and its values are. -/
theorem isFolded_map_iff :
    (map entries).IsFolded ↔ entries.IsFolded ∧ ∀ entry ∈ entries, entry.2.IsFolded := by
  constructor
  · intro h
    exact ⟨h entries (.self entries), fun entry hmem others hmap => h others (.inEntry hmem hmap)⟩
  · rintro ⟨hself, hparts⟩ others hmap
    cases hmap with
    | self => exact hself
    | inEntry hmem hentry => exact hparts _ hmem others hentry

/-- `v.foldKeys` is folded at every depth. The keys are in lower case as lower-casing twice is
lower-casing once. -/
theorem isFolded_foldKeys (v : Value) : v.foldKeys.IsFolded := by
  -- on the depth of the value, through items and entries alike
  induction v using forall_of_parts with
  | scalar v h =>
    rw [foldKeys_of_isScalar h]
    exact isFolded_of_isScalar h
  | list items ih =>
    rw [foldKeys_list, isFolded_list_iff]
    exact List.forall_mem_map.mpr ih
  | map entries ih =>
    rw [foldKeys_map, isFolded_map_iff]
    constructor
    · exact Keyed.isFolded_ofPairs (List.forall_mem_map.mpr fun entry _ => Text.lower_lower entry.1)
    · intro entry hentry
      obtain ⟨spelled, hspelled, rfl⟩ := List.mem_map.mp (Keyed.mem_of_mem_ofPairs hentry)
      exact ih spelled hspelled

/-- If `v` is folded, then `foldKeys` leaves it as it is. -/
theorem foldKeys_of_isFolded (h : v.IsFolded) : v.foldKeys = v := by
  induction v using forall_of_parts with
  | scalar v hscalar => exact foldKeys_of_isScalar hscalar
  | list items ih =>
    have hitems : items.map foldKeys = items.map id :=
      List.map_congr_left fun item hitem => ih item hitem (isFolded_list_iff.mp h item hitem)
    rw [foldKeys_list, hitems, List.map_id]
  | map entries ih =>
    obtain ⟨hself, hparts⟩ := isFolded_map_iff.mp h
    -- each entry stays as it is, and writing different keys in turn gives the map back
    have hentries : (entries.map fun entry => (Text.lower entry.1, entry.2.foldKeys)) =
        entries.map id := by
      refine List.map_congr_left fun entry hentry => ?_
      rw [hself.lowerCase entry.1 (List.mem_map_of_mem hentry),
        ih entry hentry (hparts entry hentry)]
      rfl
    rw [foldKeys_map, hentries, List.map_id, Keyed.ofPairs_of_nodup hself.nodup]

/-! ## Keys that coincide -/

/-- What becomes of the entries of a map: each key in lower case, in the place of its first
spelling, with the folded value of its last. -/
structure MergesTo (entries folded : Keyed Value) : Prop where
  keys : folded.keys = (entries.keys.map Text.lower).eraseDups
  values : ∀ before key value after, entries = before ++ (key, value) :: after →
    (∀ later ∈ after, Text.lower later.1 ≠ Text.lower key) →
    folded.get? (Text.lower key) = some value.foldKeys

/-- What `foldKeys` makes of a map merges its entries as `MergesTo` says. -/
theorem mergesTo_ofPairs (entries : Keyed Value) :
    MergesTo entries
      (Keyed.ofPairs (entries.map fun entry => (Text.lower entry.1, entry.2.foldKeys))) := by
  constructor
  · rw [Keyed.keys_ofPairs, Keyed.keys, List.map_map, List.map_map]
    rfl
  · rintro before key value after rfl hlast
    -- the search from the end meets nothing among the later entries
    have hlater : (after.map fun entry => (Text.lower entry.1, entry.2.foldKeys)).reverse.lookup
        (Text.lower key) = none := by
      rw [List.lookup_eq_none_iff]
      intro pair hpair
      obtain ⟨later, hmem, rfl⟩ := List.mem_map.mp (List.mem_reverse.mp hpair)
      simpa using (hlast later hmem).symm
    rw [Keyed.get?_ofPairs, List.map_append, List.map_cons, List.reverse_append, List.reverse_cons,
      List.append_assoc, List.lookup_append, hlater]
    simp

/-! ## Other spellings -/

/-- Values that differ in the case of their keys alone, at any depth. -/
inductive Recased : Value → Value → Prop
  | scalar {v : Value} (h : v.isScalar = true) : Recased v v
  | list {items items' : List Value} (h : List.Forall₂ Recased items items') :
      Recased (.list items) (.list items')
  | map {entries entries' : Keyed Value}
      (keys : entries'.keys.map Text.lower = entries.keys.map Text.lower)
      (values : List.Forall₂ Recased (entries.map (·.2)) (entries'.map (·.2))) :
      Recased (.map entries) (.map entries')

/-- If the items of two lists differ in the case of their keys alone, and `ih` holds of the items of
the first, then the lists are folded to the same. -/
theorem map_foldKeys_of_recased {items items' : List Value}
    (ih : ∀ item ∈ items, ∀ item', Recased item item' → item'.foldKeys = item.foldKeys)
    (h : List.Forall₂ Recased items items') : items'.map foldKeys = items.map foldKeys := by
  induction h with
  | nil => rfl
  | cons hfirst hrest hsame =>
    obtain ⟨ihfirst, ihrest⟩ := List.forall_mem_cons.mp ih
    rw [List.map_cons, List.map_cons, ihfirst _ hfirst, hsame ihrest]

/-- Values that differ in the case of their keys alone are folded to the same. -/
theorem Recased.foldKeys_eq (h : v.Recased v') : v'.foldKeys = v.foldKeys := by
  -- on the first value; the second one has the same shape
  induction v using forall_of_parts generalizing v' with
  | scalar v hscalar =>
    cases h with
    | scalar => rfl
    | list => cases hscalar
    | map => cases hscalar
  | list items ih =>
    cases h with
    | scalar hscalar => cases hscalar
    | list hitems => rw [foldKeys_list, foldKeys_list, map_foldKeys_of_recased ih hitems]
  | map entries ih =>
    cases h with
    | scalar hscalar => cases hscalar
    | map hkeys hvalues =>
      have hsame := map_foldKeys_of_recased (List.forall_mem_map.mpr ih) hvalues
      -- the pairs that are written are the keys beside the values
      have hpairs : ∀ entries : Keyed Value,
          (entries.map fun entry => (Text.lower entry.1, entry.2.foldKeys)) =
            (entries.keys.map Text.lower).zip ((entries.map (·.2)).map foldKeys) := by
        intro entries
        rw [Keyed.keys, List.map_map, List.map_map, List.zip_map']
        rfl
      rw [foldKeys_map, foldKeys_map, hpairs, hpairs, hkeys, hsame]

/-! ## The normal form -/

/-- Folding leaves maps with keys in lower case, each of them once, and changes nothing but maps and
what stands in lists. Keys that coincide keep the first place and the last value. Folding again
changes nothing, and values that differ in the case of their keys are folded to the same. -/
theorem foldKeys_normalizes (v : Value) :
    v.foldKeys.IsFolded ∧
    (v.isScalar = true → v.foldKeys = v) ∧
    (∀ items, v = .list items → v.foldKeys = .list (items.map foldKeys)) ∧
    (∀ entries, v = .map entries →
      ∃ folded, v.foldKeys = .map folded ∧ MergesTo entries folded) ∧
    v.foldKeys.foldKeys = v.foldKeys ∧
    ∀ v', v.Recased v' → v'.foldKeys = v.foldKeys := by
  refine ⟨isFolded_foldKeys v, foldKeys_of_isScalar, ?_, ?_, ?_, fun v' => Recased.foldKeys_eq⟩
  · rintro items rfl
    exact foldKeys_list items
  · rintro entries rfl
    exact ⟨_, foldKeys_map entries, mergesTo_ofPairs entries⟩
  · exact foldKeys_of_isFolded (isFolded_foldKeys v)

/-- Annotations of a car, with keys that coincide on two levels; the inner map stands in a list. -/
def spelledCar : Value :=
  .map [("Table", .str "T1"), ("indexes", .list [.str "PK",
    .map [("Columns", .int 1), ("UNIQUE", .null), ("columns", .int 2)]]), ("TABLE", .str "T2")]

/-- The annotations of `spelledCar` with other spellings of their keys. -/
def respelledCar : Value :=
  .map [("tABLE", .str "T1"), ("Indexes", .list [.str "PK",
    .map [("columns", .int 1), ("Unique", .null), ("COLUMNS", .int 2)]]), ("table", .str "T2")]

theorem foldKeys_normalizes_car :
    spelledCar.Recased respelledCar ∧ respelledCar.foldKeys = spelledCar.foldKeys ∧
      spelledCar.foldKeys.IsFolded ∧ spelledCar.foldKeys.foldKeys = spelledCar.foldKeys ∧
      spelledCar.foldKeys = .map [("table", .str "T2"), ("indexes", .list [.str "PK",
        .map [("columns", .int 2), ("unique", .null)]])] := by
  obtain ⟨hfolded, -, -, -, hagain, hrecased⟩ := foldKeys_normalizes spelledCar
  have hinner : Recased (.map [("Columns", .int 1), ("UNIQUE", .null), ("columns", .int 2)])
      (.map [("columns", .int 1), ("Unique", .null), ("COLUMNS", .int 2)]) :=
    .map (by decide) (.cons (.scalar rfl) (.cons (.scalar rfl) (.cons (.scalar rfl) .nil)))
  have hlist := Recased.list (.cons (.scalar (v := .str "PK") rfl) (.cons hinner .nil))
  have hcar : spelledCar.Recased respelledCar :=
    .map (by decide) (.cons (.scalar rfl) (.cons hlist (.cons (.scalar rfl) .nil)))
  exact ⟨hcar, hrecased respelledCar hcar, hfolded, hagain, by decide⟩

end Value

end OrmMapping
