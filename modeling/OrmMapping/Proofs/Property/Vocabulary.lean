import Mathlib.Data.List.Nodup
import OrmMapping.Descriptor.Validation
import OrmMapping.Property.Facts

/-!
# Facts in two vocabularies

Most facts on a property can be told in the flat vocabulary and in the structured one. Here stands
which ones they are, under which key each vocabulary has them and, for the structured one, in which
set. From that table come two renditions of the same facts, with any values at all.

* `SharedFact`, `SharedKind`: what both vocabularies can say;
* `SharedFact.flatKey`, `SharedFact.place`, `SharedFact.nestedKey`: how they say it;
* `SharedKind.classic`, `SharedKind.modern`: the renditions, as written;
* `get?_classic`, `get?_present_cellsAt`, `get?_modern_of_mem`: what stands where;
* `foldEntries_classic`, `foldEntries_modern`: folding of keys happens inside the values only.
-/

namespace OrmMapping

/-! ## The table -/

/-- The kinds of property that both vocabularies can declare. -/
inductive SharedKind where
  | id
  | column
  | version
  | association (kind : AssociationKind)
deriving DecidableEq, Repr

/-- The facts that both vocabularies can express. -/
inductive SharedFact where
  | ormType | sqlType | declaredType | formula
  | unique | notNull | lockSensitive | unsavedValue | immutable
  | columnName | length | precision | scale | defaultValue | table | uniqueKey
  | insertable | updatable
  | lazy
  | strategy | sequence | selectKey | params
  | target | foreignKeyColumn | foreignKeyName
  | mappedBy | cascade | fetch | constrained | inverse | orderBy | condition | batchSize
  | missingRowIgnored
  | keyColumn | keyType | keyFormula | elementColumn | elementType | elementFormula
  | linkTable | linkSchema | linkCatalog | inverseJoinColumn
deriving DecidableEq, Repr

/-- Where the structured vocabulary keeps a fact: on the property itself, or in a nested set. -/
inductive FactPlace where
  | own
  | column
  | generator
  | joinColumn
  | joinTable
  | relation
deriving DecidableEq, Repr

namespace FactPlace

/-- All places. -/
def all : List FactPlace :=
  [.own, .column, .generator, .joinColumn, .joinTable, .relation]

theorem mem_all (place : FactPlace) : place ∈ all := by
  cases place <;> decide

end FactPlace

namespace SharedKind

/-- All kinds. -/
def all : List SharedKind :=
  [.id, .column, .version, .association .oneToOne, .association .manyToOne,
    .association .oneToMany, .association .manyToMany]

theorem mem_all (kind : SharedKind) : kind ∈ all := by
  cases kind with
  | association k => cases k <;> decide
  | id => decide
  | column => decide
  | version => decide

/-- The kind as declared. -/
def fieldKind : SharedKind → FieldKind
  | .id => .id
  | .column => .column
  | .version => .version
  | .association kind => .association kind

end SharedKind

namespace SharedFact

/-- The key in the flat vocabulary. -/
def flatKey : SharedFact → String
  | .ormType => "ormtype"
  | .sqlType => "sqltype"
  | .declaredType => "type"
  | .formula => "formula"
  | .unique => "unique"
  | .notNull => "notnull"
  | .lockSensitive => "optimisticlock"
  | .unsavedValue => "unsavedvalue"
  | .immutable => "readonly"
  | .columnName => "column"
  | .length => "length"
  | .precision => "precision"
  | .scale => "scale"
  | .defaultValue => "dbdefault"
  | .table => "table"
  | .uniqueKey => "uniquekey"
  | .insertable => "insert"
  | .updatable => "update"
  | .lazy => "lazy"
  | .strategy => "generator"
  | .sequence => "sequence"
  | .selectKey => "selectkey"
  | .params => "params"
  | .target => "cfc"
  | .foreignKeyColumn => "fkcolumn"
  | .foreignKeyName => "foreignkeyname"
  | .mappedBy => "mappedby"
  | .cascade => "cascade"
  | .fetch => "fetch"
  | .constrained => "constrained"
  | .inverse => "inverse"
  | .orderBy => "orderby"
  | .condition => "where"
  | .batchSize => "batchsize"
  | .missingRowIgnored => "missingrowignored"
  | .keyColumn => "structkeycolumn"
  | .keyType => "structkeytype"
  | .keyFormula => "structkeyformula"
  | .elementColumn => "elementcolumn"
  | .elementType => "elementtype"
  | .elementFormula => "elementformula"
  | .linkTable => "linktable"
  | .linkSchema => "linkschema"
  | .linkCatalog => "linkcatalog"
  | .inverseJoinColumn => "inversejoincolumn"

/-- The set that holds the fact in the structured vocabulary. How a relationship is loaded is said
with the relationship, and how a plain property is loaded on the property. -/
def place (kind : SharedKind) : SharedFact → FactPlace
  | .columnName | .length | .precision | .scale | .defaultValue | .table | .uniqueKey | .insertable
  | .updatable => .column
  | .strategy | .sequence | .selectKey | .params => .generator
  | .foreignKeyColumn | .foreignKeyName => .joinColumn
  | .linkTable | .linkSchema | .linkCatalog | .inverseJoinColumn => .joinTable
  | .target | .mappedBy | .cascade | .fetch | .constrained | .inverse | .orderBy | .condition
  | .batchSize | .missingRowIgnored | .keyColumn | .keyType | .keyFormula | .elementColumn
  | .elementType | .elementFormula => .relation
  | .lazy =>
    match kind with
    | .association _ => .relation
    | _ => .own
  | _ => .own

/-- The key inside that set, most often the flat one. -/
def nestedKey : SharedFact → String
  | .immutable => "immutable"
  | .columnName => "name"
  | .defaultValue => "default"
  | .insertable => "insertable"
  | .updatable => "updatable"
  | .strategy => "strategy"
  | .target => "targetentity"
  | .foreignKeyColumn => "name"
  | .foreignKeyName => "foreignkey"
  | .linkTable => "name"
  | .linkSchema => "schema"
  | .linkCatalog => "catalog"
  | fact => fact.flatKey

/-- The facts on a property of any kind. -/
def common : List SharedFact :=
  [.ormType, .sqlType, .declaredType, .formula, .unique, .notNull, .lockSensitive, .unsavedValue,
    .immutable, .columnName, .length, .precision, .scale, .defaultValue, .table, .uniqueKey,
    .insertable, .updatable, .lazy]

/-- The facts on identifiers. -/
def identifying : List SharedFact :=
  [.strategy, .sequence, .selectKey, .params]

/-- The facts on relationships. -/
def relational : List SharedFact :=
  [.target, .foreignKeyColumn, .foreignKeyName, .mappedBy, .cascade, .fetch, .constrained, .inverse,
    .orderBy, .condition, .batchSize, .missingRowIgnored, .keyColumn, .keyType, .keyFormula,
    .elementColumn, .elementType, .elementFormula, .linkTable, .linkSchema, .linkCatalog,
    .inverseJoinColumn]

end SharedFact

/-- The key of a relationship in the structured vocabulary. -/
def AssociationKind.relationKey : AssociationKind → String
  | .oneToOne => "onetoone"
  | .manyToOne => "manytoone"
  | .oneToMany => "onetomany"
  | .manyToMany => "manytomany"

/-! ## Renditions -/

/-- Keys in order, each with a value or with nothing. -/
abbrev Cells := List (String × Option Value)

/-- The entries of the cells that hold a value. -/
def present (cells : Cells) : Keyed Value :=
  cells.filterMap fun (key, value) => value.map (key, ·)

/-- A nested set of cells, left out when it would be empty. -/
def nestedSet (cells : Cells) : Option Value :=
  if (present cells).isEmpty then none else some (.map (present cells))

namespace SharedKind

variable (kind : SharedKind) (values : SharedFact → Option Value)

/-- The facts on a property of this kind. -/
def facts : List SharedFact :=
  SharedFact.common ++
    match kind with
    | .id => SharedFact.identifying
    | .association _ => SharedFact.relational
    | _ => []

/-- The cells of the facts that the structured vocabulary keeps in one place. -/
def cellsAt (place : FactPlace) : Cells :=
  (kind.facts.filter fun fact => fact.place kind == place).map fun fact =>
    (fact.nestedKey, values fact)

/-- The cells of the flat rendition. -/
def classicCells : Cells :=
  ("fieldtype", some (.str kind.fieldKind.name)) ::
    kind.facts.map fun fact => (fact.flatKey, values fact)

/-- The cell that says in the structured rendition what the property is. -/
def markCells : Cells :=
  match kind with
  | .id => [("id", some (.bool true))]
  | .column => []
  | .version => [("version", some (.bool true))]
  | .association k => [(k.relationKey, some (.map (present (kind.cellsAt values .relation))))]

/-- The cells of the structured rendition. -/
def modernCells : Cells :=
  kind.markCells values ++ kind.cellsAt values .own ++
    [("column", nestedSet (kind.cellsAt values .column)),
      ("generatedvalue", nestedSet (kind.cellsAt values .generator)),
      ("joincolumn", nestedSet (kind.cellsAt values .joinColumn)),
      ("jointable", nestedSet (kind.cellsAt values .joinTable))]

/-- The annotations of a property in the flat vocabulary. -/
def classic : Keyed Value :=
  present (kind.classicCells values)

/-- The annotations of a property in the structured vocabulary. -/
def modern : Keyed Value :=
  present (kind.modernCells values)

/-- The property that the flat rendition declares, read as any descriptor is. -/
def classicDecl (name : String) : PropertyDecl :=
  ⟨name, foldEntries (kind.classic values)⟩

/-- The property that the structured rendition declares. -/
def modernDecl (name : String) : PropertyDecl :=
  ⟨name, foldEntries (kind.modern values)⟩

end SharedKind

/-! ## What stands under a key -/

section Cells

variable {cells : Cells} {key : String} {value : Option Value}

/-- What stands under `key` when a cell is put in front: the value of the cell, if it is for `key`
and holds one. -/
theorem get?_present_cons (k : String) (v : Option Value) (rest : Cells) (key : String) :
    (present ((k, v) :: rest)).get? key =
      if key = k then v.or ((present rest).get? key) else (present rest).get? key := by
  cases v with
  | none => simp [present]
  | some x => simp [present, Keyed.get?_cons]

/-- Under a key that no cell has stands nothing. -/
theorem get?_present_of_not_mem (h : key ∉ cells.map (·.1)) :
    (present cells).get? key = none := by
  induction cells with
  | nil => rfl
  | cons cell rest ih =>
    obtain ⟨k, v⟩ := cell
    rw [List.map_cons, List.mem_cons, not_or] at h
    rw [get?_present_cons, if_neg h.1, ih h.2]

/-- If no key is written twice, then each cell stands under its key. -/
theorem get?_present_of_mem (hnodup : (cells.map (·.1)).Nodup) (h : (key, value) ∈ cells) :
    (present cells).get? key = value := by
  induction cells with
  | nil => cases h
  | cons cell rest ih =>
    obtain ⟨k, v⟩ := cell
    rw [List.map_cons, List.nodup_cons] at hnodup
    rw [get?_present_cons]
    -- the cell is the first one, or it has another key than the first one
    rcases List.mem_cons.mp h with heq | hrest
    · obtain ⟨rfl, rfl⟩ := Prod.mk.inj heq
      rw [if_pos rfl, get?_present_of_not_mem hnodup.1, Option.or_none]
    · have hkey : key ≠ k := fun heq => hnodup.1 (heq ▸ List.mem_map.mpr ⟨_, hrest, rfl⟩)
      rw [if_neg hkey, ih hnodup.2 hrest]

end Cells

namespace SharedKind

variable (kind : SharedKind) (values : SharedFact → Option Value)

/-- The keys of the flat rendition. -/
def classicKeys : List String :=
  "fieldtype" :: kind.facts.map SharedFact.flatKey

/-- The keys in one place of the structured rendition. -/
def keysAt (place : FactPlace) : List String :=
  (kind.facts.filter fun fact => fact.place kind == place).map SharedFact.nestedKey

/-- The keys of the structured rendition. -/
def modernKeys : List String :=
  (kind.markCells fun _ => none).map (·.1) ++ kind.keysAt .own ++
    ["column", "generatedvalue", "joincolumn", "jointable"]

/-- The flat cells have the keys `classicKeys`, whatever the values. -/
theorem classicCells_keys : (kind.classicCells values).map (·.1) = kind.classicKeys := by
  simp [classicCells, classicKeys, Function.comp_def]

/-- The cells of one place have the keys `keysAt place`, whatever the values. -/
theorem cellsAt_keys (place : FactPlace) :
    (kind.cellsAt values place).map (·.1) = kind.keysAt place := by
  simp [cellsAt, keysAt, Function.comp_def]

/-- The structured cells have the keys `modernKeys`, whatever the values: those of the mark do not
depend on them. -/
theorem modernCells_keys : (kind.modernCells values).map (·.1) = kind.modernKeys := by
  have hmark : (kind.markCells values).map (·.1) = (kind.markCells fun _ => none).map (·.1) := by
    cases kind <;> rfl
  simp only [modernCells, modernKeys, List.map_append, cellsAt_keys, hmark, List.map_cons,
    List.map_nil]

/-- In no rendition, and in no nested set of one, does the table use a key twice. -/
theorem nodup_table : ∀ kind ∈ all, kind.classicKeys.Nodup ∧ kind.modernKeys.Nodup ∧
    ∀ place ∈ FactPlace.all, (kind.keysAt place).Nodup := by
  decide +kernel

/-- All keys of the table are in lower case. -/
theorem lower_table : ∀ kind ∈ all, (∀ key ∈ kind.classicKeys, Text.lower key = key) ∧
    (∀ key ∈ kind.modernKeys, Text.lower key = key) ∧
    ∀ place ∈ FactPlace.all, ∀ key ∈ kind.keysAt place, Text.lower key = key := by
  decide +kernel

theorem nodup_classicKeys : kind.classicKeys.Nodup :=
  (nodup_table kind kind.mem_all).1

theorem nodup_modernKeys : kind.modernKeys.Nodup :=
  (nodup_table kind kind.mem_all).2.1

theorem nodup_keysAt (place : FactPlace) : (kind.keysAt place).Nodup :=
  (nodup_table kind kind.mem_all).2.2 place place.mem_all

theorem lower_classicKeys : ∀ key ∈ kind.classicKeys, Text.lower key = key :=
  (lower_table kind kind.mem_all).1

theorem lower_modernKeys : ∀ key ∈ kind.modernKeys, Text.lower key = key :=
  (lower_table kind kind.mem_all).2.1

theorem lower_keysAt (place : FactPlace) : ∀ key ∈ kind.keysAt place, Text.lower key = key :=
  (lower_table kind kind.mem_all).2.2 place place.mem_all

variable {kind} {values} {fact : SharedFact} {key : String}

/-- A property of any kind has the facts of `common`. -/
theorem mem_facts_of_common (h : fact ∈ SharedFact.common) : fact ∈ kind.facts :=
  List.mem_append_left _ h

theorem mem_facts_of_identifying (h : fact ∈ SharedFact.identifying) :
    fact ∈ SharedKind.id.facts :=
  List.mem_append_right _ h

theorem mem_facts_of_relational {k : AssociationKind} (h : fact ∈ SharedFact.relational) :
    fact ∈ (SharedKind.association k).facts :=
  List.mem_append_right _ h

/-- The flat rendition has each fact under its flat key, with the value that it is given. -/
theorem get?_classic (h : fact ∈ kind.facts) :
    (kind.classic values).get? fact.flatKey = values fact := by
  refine get?_present_of_mem ?_ (List.mem_cons_of_mem _ (List.mem_map_of_mem h))
  rw [classicCells_keys]
  exact kind.nodup_classicKeys

/-- The flat rendition names its kind under `fieldtype`. -/
theorem get?_classic_fieldtype :
    (kind.classic values).get? "fieldtype" = some (.str kind.fieldKind.name) := by
  refine get?_present_of_mem ?_ List.mem_cons_self
  rw [classicCells_keys]
  exact kind.nodup_classicKeys

/-- The flat rendition has nothing under other keys. -/
theorem get?_classic_of_not_mem (h : key ∉ kind.classicKeys) :
    (kind.classic values).get? key = none := by
  refine get?_present_of_not_mem ?_
  rwa [classicCells_keys]

/-- A place of the structured rendition has each fact that belongs there under its nested key. -/
theorem get?_present_cellsAt (h : fact ∈ kind.facts) :
    (present (kind.cellsAt values (fact.place kind))).get? fact.nestedKey = values fact := by
  refine get?_present_of_mem ?_ ?_
  · rw [cellsAt_keys]
    exact kind.nodup_keysAt _
  · exact List.mem_map.mpr ⟨fact, List.mem_filter.mpr ⟨h, beq_self_eq_true _⟩, rfl⟩

/-- A place of the structured rendition has nothing under other keys. -/
theorem get?_present_cellsAt_of_not_mem {place : FactPlace} (h : key ∉ kind.keysAt place) :
    (present (kind.cellsAt values place)).get? key = none := by
  refine get?_present_of_not_mem ?_
  rwa [cellsAt_keys]

/-- Each cell of the structured rendition stands under its key. -/
theorem get?_modern_of_mem {value : Option Value} (h : (key, value) ∈ kind.modernCells values) :
    (kind.modern values).get? key = value := by
  refine get?_present_of_mem ?_ h
  rw [modernCells_keys]
  exact kind.nodup_modernKeys

/-- The structured rendition has nothing under other keys. -/
theorem get?_modern_of_not_mem (h : key ∉ kind.modernKeys) :
    (kind.modern values).get? key = none := by
  refine get?_present_of_not_mem ?_
  rwa [modernCells_keys]

end SharedKind

/-! ## Folding -/

/-- The cells with the keys inside their values folded. -/
def foldCells (cells : Cells) : Cells :=
  cells.map fun (key, value) => (key, value.map Value.foldKeys)

section Folding

variable {cells : Cells}

theorem foldCells_keys : (foldCells cells).map (·.1) = cells.map (·.1) := by
  simp [foldCells, Function.comp_def]

/-- Folding the values of cells does not change which cells hold a value. -/
theorem present_foldCells :
    present (foldCells cells) = (present cells).map fun (key, value) => (key, value.foldKeys) := by
  simp only [present, foldCells, List.filterMap_map, List.map_filterMap]
  congr 1
  funext cell
  obtain ⟨k, v⟩ := cell
  cases v <;> rfl

/-- The keys of the entries are among those of the cells, in their order. -/
theorem keys_present_sublist (cells : Cells) :
    List.Sublist (Keyed.keys (present cells)) (cells.map (·.1)) := by
  induction cells with
  | nil => exact .slnil
  | cons cell rest ih =>
    obtain ⟨k, v⟩ := cell
    cases v with
    | none => exact ih.cons k
    | some x => exact ih.cons_cons k

/-- If the keys of the cells are in lower case, then folding changes only what stands within the
values. -/
theorem foldPairs_present (hlower : ∀ key ∈ cells.map (·.1), Text.lower key = key) :
    Value.foldPairs (present cells) = present (foldCells cells) := by
  induction cells with
  | nil => rfl
  | cons cell rest ih =>
    obtain ⟨k, v⟩ := cell
    obtain ⟨hk, hrest⟩ := List.forall_mem_cons.mp hlower
    cases v with
    | none => exact ih hrest
    | some x =>
      have hx : present ((k, some x) :: rest) = (k, x) :: present rest := rfl
      rw [hx, Value.foldPairs, hk, ih hrest]
      rfl

/-- If the keys of the cells are different and in lower case, then no entries are merged. -/
theorem foldEntries_present (hnodup : (cells.map (·.1)).Nodup)
    (hlower : ∀ key ∈ cells.map (·.1), Text.lower key = key) :
    foldEntries (present cells) = present (foldCells cells) := by
  rw [foldEntries, foldPairs_present hlower]
  refine Keyed.ofPairs_of_nodup (List.Nodup.sublist (keys_present_sublist _) ?_)
  rwa [foldCells_keys]

/-- A nested set is folded as an annotation set is. -/
theorem foldKeys_nestedSet (hnodup : (cells.map (·.1)).Nodup)
    (hlower : ∀ key ∈ cells.map (·.1), Text.lower key = key) :
    (nestedSet cells).map Value.foldKeys = nestedSet (foldCells cells) := by
  -- folding keeps the number of entries, so the set is left out in both or in neither
  have hempty : (present (foldCells cells)).isEmpty = (present cells).isEmpty := by
    rw [present_foldCells, List.isEmpty_map]
  have hfold := foldEntries_present hnodup hlower
  rw [foldEntries] at hfold
  unfold nestedSet
  rw [hempty]
  split
  · rfl
  · rw [Option.map_some, Value.foldKeys, hfold]

/-- A set with entries has some when its keys are folded. -/
theorem foldEntries_ne_nil {entries : Keyed Value} (h : entries ≠ []) :
    foldEntries entries ≠ [] := by
  -- writing an entry leaves one
  have hput : ∀ (entries : Keyed Value) (key : String) (value : Value),
      entries.put key value ≠ [] := by
    intro entries key value
    cases entries with
    | nil => exact List.cons_ne_nil _ _
    | cons entry rest =>
      rw [Keyed.put]
      split <;> exact List.cons_ne_nil _ _
  have hputAll : ∀ (pairs : List (String × Value)) (entries : Keyed Value), entries ≠ [] →
      entries.putAll pairs ≠ [] := by
    intro pairs
    induction pairs with
    | nil => exact fun entries hentries => hentries
    | cons pair rest ih => exact fun entries _ => ih _ (hput entries pair.1 pair.2)
  cases entries with
  | nil => exact absurd rfl h
  | cons entry rest =>
    exact hputAll (Value.foldPairs rest) _ (hput [] (Text.lower entry.1) entry.2.foldKeys)

/-- A nested set stands there when one of its cells holds a value. -/
theorem isSome_nestedSet :
    (nestedSet cells).isSome = true ↔ ∃ cell ∈ cells, cell.2.isSome = true := by
  have hempty : (present cells).isEmpty = true ↔ ∀ cell ∈ cells, ¬ cell.2.isSome = true := by
    rw [List.isEmpty_iff, present, List.filterMap_eq_nil_iff]
    simp
  -- a set is left out exactly when no cell is present
  have hset : (nestedSet cells).isSome = !(present cells).isEmpty := by
    unfold nestedSet
    cases (present cells).isEmpty <;> rfl
  rw [hset, Bool.not_eq_true', ← Bool.not_eq_true, hempty]
  simp only [not_forall, not_not, exists_prop]

/-- Keys as loaded annotations have them: none twice, and all in lower case. -/
def FoldedKeys (keys : List String) : Prop :=
  keys.Nodup ∧ ∀ key ∈ keys, Text.lower key = key

instance (keys : List String) : Decidable (FoldedKeys keys) :=
  inferInstanceAs (Decidable (_ ∧ _))

variable {key : String}

/-- If the keys are folded, then each cell stands under its key, its value folded. -/
theorem get?_foldEntries_present {value : Option Value} (hkeys : FoldedKeys (cells.map (·.1)))
    (h : (key, value) ∈ cells) :
    (foldEntries (present cells)).get? key = value.map Value.foldKeys := by
  rw [foldEntries_present hkeys.1 hkeys.2]
  refine get?_present_of_mem ?_ (List.mem_map.mpr ⟨_, h, rfl⟩)
  rw [foldCells_keys]
  exact hkeys.1

/-- If the keys are folded, then nothing stands under a key that no cell has. -/
theorem get?_foldEntries_present_of_not_mem (hkeys : FoldedKeys (cells.map (·.1)))
    (h : key ∉ cells.map (·.1)) : (foldEntries (present cells)).get? key = none := by
  rw [foldEntries_present hkeys.1 hkeys.2]
  refine get?_present_of_not_mem ?_
  rwa [foldCells_keys]

/-- A nested set is read as it is folded, and one that was left out as an empty one. -/
theorem nestedEntries_nestedSet (shorthand : String) (hkeys : FoldedKeys (cells.map (·.1))) :
    Annotations.nestedEntries shorthand (((nestedSet cells).map Value.foldKeys).getD .null) =
      foldEntries (present cells) := by
  rw [foldKeys_nestedSet hkeys.1 hkeys.2, foldEntries_present hkeys.1 hkeys.2, nestedSet]
  split
  · next hempty => exact (List.isEmpty_iff.mp hempty).symm
  · rfl

end Folding

namespace SharedKind

variable (kind : SharedKind) (values : SharedFact → Option Value)

/-- To fold the cells of a place is to fold the values of the facts. -/
theorem foldCells_cellsAt (place : FactPlace) :
    foldCells (kind.cellsAt values place) =
      kind.cellsAt (fun fact => (values fact).map Value.foldKeys) place := by
  simp [foldCells, cellsAt, Function.comp_def]

/-- To fold what stands in one place is to fold the values of the facts: the keys are in lower
case. -/
theorem foldEntries_cellsAt (place : FactPlace) :
    foldEntries (present (kind.cellsAt values place)) =
      present (kind.cellsAt (fun fact => (values fact).map Value.foldKeys) place) := by
  rw [foldEntries_present, foldCells_cellsAt]
  · rw [cellsAt_keys]
    exact kind.nodup_keysAt place
  · rw [cellsAt_keys]
    exact kind.lower_keysAt place

/-- To fold the nested set of one place is to fold the values of the facts, also where the set is
left out. -/
theorem foldKeys_nestedSet_cellsAt (place : FactPlace) :
    (nestedSet (kind.cellsAt values place)).map Value.foldKeys =
      nestedSet (kind.cellsAt (fun fact => (values fact).map Value.foldKeys) place) := by
  rw [foldKeys_nestedSet, foldCells_cellsAt]
  · rw [cellsAt_keys]
    exact kind.nodup_keysAt place
  · rw [cellsAt_keys]
    exact kind.lower_keysAt place

/-- The flat rendition is folded value by value: its own keys stay. -/
theorem foldEntries_classic :
    foldEntries (kind.classic values) =
      kind.classic fun fact => (values fact).map Value.foldKeys := by
  rw [classic, foldEntries_present]
  · rw [classic]
    congr 1
    simp [foldCells, classicCells, Function.comp_def, Value.foldKeys]
  · rw [classicCells_keys]
    exact kind.nodup_classicKeys
  · rw [classicCells_keys]
    exact kind.lower_classicKeys

/-- To fold the mark is to fold the values within it, where it holds a relationship. -/
theorem foldCells_markCells :
    foldCells (kind.markCells values) =
      kind.markCells fun fact => (values fact).map Value.foldKeys := by
  cases kind with
  | id => rfl
  | column => rfl
  | version => rfl
  | association k =>
    -- the mark of a relationship holds a set, whose keys are folded too
    have hfold := (SharedKind.association k).foldEntries_cellsAt values .relation
    rw [foldEntries] at hfold
    simp only [foldCells, markCells, List.map_cons, List.map_nil, Option.map_some, Value.foldKeys,
      hfold]

/-- The structured rendition is folded value by value: its own keys stay at both depths. -/
theorem foldEntries_modern :
    foldEntries (kind.modern values) =
      kind.modern fun fact => (values fact).map Value.foldKeys := by
  rw [modern, foldEntries_present]
  · rw [modern]
    congr 1
    -- the cells are folded group by group, the nested sets at their own depth
    have happend : ∀ xs ys : Cells, foldCells (xs ++ ys) = foldCells xs ++ foldCells ys :=
      fun xs ys => List.map_append
    simp only [modernCells, happend, foldCells_markCells, foldCells_cellsAt]
    simp only [foldCells, List.map_cons, List.map_nil, foldKeys_nestedSet_cellsAt]
  · rw [modernCells_keys]
    exact kind.nodup_modernKeys
  · rw [modernCells_keys]
    exact kind.lower_modernKeys

end SharedKind

end OrmMapping
