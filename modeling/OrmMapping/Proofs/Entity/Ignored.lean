import OrmMapping.Proofs.Entity.Footprint

/-!
# Annotations of the other vocabulary

Some keys have a meaning in one of the two vocabularies only. A class is read in one vocabulary, and
so are its properties: whatever stands under the keys of the other one is ignored, well-formed or
not.

* `Dialect.ignoredClassKeys`, `Dialect.ignoredPropertyKeys`: the keys that a vocabulary ignores;
* `SameBut`: entries that differ under some keys only;
* `sameBut_of_filter_eq`: entries that were added, changed or removed;
* `MappedEntity.ofDescriptor_of_sameButIgnored`: a class is mapped alike, whatever is ignored.
-/

namespace OrmMapping

/-! ## Keys -/

/-- The keys on a class that only the other vocabulary knows. -/
def Dialect.ignoredClassKeys : Dialect → List String
  | .classic => ["entity", "immutable", "cache"]
  | .modern =>
    ["entityname", "schema", "catalog", "readonly", "discriminatorcolumn", "discriminatorvalue",
      "discriminatortype", "discriminatorformula", "discriminatorforce", "discriminatorinsert",
      "cacheuse", "cachename", "cacheinclude"]

/-- The keys on a property that only the other vocabulary knows. -/
def Dialect.ignoredPropertyKeys : Dialect → List String
  | .classic =>
    ["transient", "version", "onetoone", "manytoone", "onetomany", "manytomany", "generatedvalue",
      "joincolumn", "jointable", "immutable"]
  | .modern =>
    ["persistent", "fieldtype", "length", "precision", "scale", "dbdefault", "table", "uniquekey",
      "insert", "update", "readonly", "datatype", "generator", "sequence", "selectkey", "property",
      "generated", "params", "linktable", "linkschema", "linkcatalog", "fkcolumn", "cfc", "class",
      "foreignkey", "foreignkeyname"]

/-- Whether nothing is read under any of some keys. -/
def ReadKeys.miss (keys : ReadKeys) (ignored : List String) : Bool :=
  (keys.values ++ keys.sets.keys).all fun key => !ignored.contains key

/-- No vocabulary reads a key of a class that is said to be ignored by it. -/
theorem classKeys_miss (dialect : Dialect) :
    dialect.classKeys.miss dialect.ignoredClassKeys = true := by
  cases dialect <;> decide

/-- No vocabulary reads a key of a property that is said to be ignored by it. -/
theorem propertyKeys_miss (dialect : Dialect) :
    dialect.propertyKeys.miss dialect.ignoredPropertyKeys = true := by
  cases dialect <;> decide

/-! ## Differences that do not count -/

/-- The same entries, but for what stands under some keys. -/
def SameBut (ignored : List String) (entries entries' : Keyed Value) : Prop :=
  ∀ key, key ∉ ignored → entries'.get? key = entries.get? key

variable {ignored : List String} {entries entries' : Keyed Value} {keys : ReadKeys} {key : String}

/-- Dropping the `ignored` keys keeps the entry under any other one. -/
theorem get?_filter_of_not_mem (h : key ∉ ignored) (entries : Keyed Value) :
    Keyed.get? (entries.filter fun entry => !ignored.contains entry.1) key = entries.get? key := by
  induction entries with
  | nil => rfl
  | cons entry rest ih =>
    obtain ⟨k, v⟩ := entry
    rw [List.filter_cons, Keyed.get?_cons]
    split
    · rw [Keyed.get?_cons, ih]
    · -- the dropped entry has an ignored key, so it is not the one under `key`
      next hdropped =>
      have hk : k ∈ ignored := by simpa using hdropped
      have hne : ¬ key = k := fun heq => h (heq ▸ hk)
      rw [ih, if_neg hne]

/-- Entries are the same but for the `ignored` keys when what is left without these keys is the same
list. -/
theorem sameBut_of_filter_eq
    (h : (entries'.filter fun entry => !ignored.contains entry.1) =
      entries.filter fun entry => !ignored.contains entry.1) :
    SameBut ignored entries entries' := by
  intro key hkey
  rw [← get?_filter_of_not_mem hkey entries', h, get?_filter_of_not_mem hkey entries]

/-- Entries that differ under `ignored` keys only are alike for a reader that misses all of them. -/
theorem SameBut.alikeUnder (h : SameBut ignored entries entries')
    (hmiss : keys.miss ignored = true) : AlikeUnder keys entries entries' := by
  have hget : ∀ key ∈ keys.values ++ keys.sets.keys, entries'.get? key = entries.get? key := by
    intro key hkey
    exact h key (by simpa using List.all_eq_true.mp hmiss key hkey)
  -- single values, presence of sets, and the sets themselves
  refine ⟨fun key hkey => hget key (List.mem_append_left _ hkey), fun key hkey => ?_,
    fun key shorthand hread => ?_⟩
  · rw [Keyed.has, Keyed.has, hget key (List.mem_append_right _ hkey)]
  · have hkey : key ∈ keys.sets.keys := by
      have hmem := List.lookup_isSome_iff.mp (Option.isSome_of_eq_some hread)
      obtain ⟨entry, hentry, heq⟩ := hmem
      rw [eq_of_beq heq]
      exact List.mem_map_of_mem hentry
    rw [hget key (List.mem_append_right _ hkey)]

/-- Declarations of one property that differ under some keys only. -/
structure PropertyDecl.SameBut (ignored : List String) (decl decl' : PropertyDecl) : Prop where
  name : decl'.name = decl.name
  annotations : OrmMapping.SameBut ignored decl.annotations decl'.annotations

/-- Descriptors that differ in what the vocabulary of the class ignores. -/
structure Descriptor.SameButIgnored (d d' : Descriptor) : Prop where
  name : d'.own.name = d.own.name
  annotations : SameBut d.dialect.ignoredClassKeys d.own.annotations d'.own.annotations
  properties : List.Forall₂ (PropertyDecl.SameBut d.dialect.ignoredPropertyKeys)
    d.own.properties d'.own.properties
  ancestors : d'.ancestors = d.ancestors

variable {d d' : Descriptor}

/-- Descriptors that differ in what is ignored are alike to the mapping. -/
theorem Descriptor.SameButIgnored.alike (h : d.SameButIgnored d') : d.Alike d' where
  own := ⟨h.name, h.annotations.alikeUnder (classKeys_miss _)⟩
  properties := h.properties.imp fun _ _ hdecl =>
    ⟨hdecl.name, hdecl.annotations.alikeUnder (propertyKeys_miss _)⟩
  ancestors := h.ancestors

/-! ## Entities -/

/-- A class is mapped alike, whatever it and its properties have under the keys of the other
vocabulary: to the same entity or with the same fault, and with the same warnings. -/
theorem MappedEntity.ofDescriptor_of_sameButIgnored (h : d.SameButIgnored d')
    (fallback : Option String) :
    MappedEntity.ofDescriptor d' fallback = MappedEntity.ofDescriptor d fallback :=
  ofDescriptor_alike h.alike fallback

/-- A carriage, in the structured vocabulary. -/
def carriage : ClassDecl where
  name := "garage.Carriage"
  annotations := [("entity", .str "Carriage"), ("table", .str "carriages")]
  properties := [⟨"id", [("id", .bool true), ("column", .str "nr")]⟩]

/-- A bus in the flat vocabulary, which is a carriage with a table of its own. -/
def bus : ClassDecl where
  name := "garage.Bus"
  annotations := [("persistent", .bool true), ("joincolumn", .str "carriage_nr")]
  properties :=
    [⟨"line", [("fieldtype", .str "many-to-one"), ("cfc", .str "Line"), ("update", .str "no")]⟩]

/-- The bus with annotations of the other vocabulary, which would be refused there, in between. -/
def clutteredBus : ClassDecl where
  name := "garage.Bus"
  annotations := [("cache", .list []), ("persistent", .bool true), ("entity", .str "Coach"),
    ("joincolumn", .str "carriage_nr"), ("immutable", .null)]
  properties :=
    [⟨"line", [("transient", .str "yes"), ("fieldtype", .str "many-to-one"),
      ("version", .str "maybe"), ("cfc", .str "Line"), ("onetomany", .map []),
      ("update", .str "no"), ("joincolumn", .str "line_nr")]⟩]

/-- A ferry in the structured vocabulary, with annotations of the other one. -/
def ferry : ClassDecl where
  name := "harbour.Ferry"
  annotations := [("entity", .null), ("entityname", .map []), ("discriminatorforce", .str "maybe"),
    ("cacheuse", .str "read-only")]
  properties := [⟨"id", [("id", .null), ("fieldtype", .str "unheard-of"), ("length", .bool true)]⟩]

/-- The ferry with other such annotations. -/
def repaintedFerry : ClassDecl where
  name := "harbour.Ferry"
  annotations := [("schema", .int 1), ("entity", .null), ("discriminatorforce", .bool true)]
  properties := [⟨"id", [("id", .null), ("persistent", .bool false)]⟩]

/-- The clutter on the bus and the repainting of the ferry stand under keys of the other vocabulary,
so both classes are mapped as before. -/
theorem MappedEntity.ofDescriptor_of_sameButIgnored_bus :
    (Descriptor.SameButIgnored ⟨bus, [carriage]⟩ ⟨clutteredBus, [carriage]⟩ ∧
      MappedEntity.ofDescriptor ⟨clutteredBus, [carriage]⟩ none =
        MappedEntity.ofDescriptor ⟨bus, [carriage]⟩ none ∧
      (MappedEntity.ofDescriptor ⟨bus, [carriage]⟩ none).outcome.toOption.isSome = true) ∧
    Descriptor.SameButIgnored ⟨ferry, []⟩ ⟨repaintedFerry, []⟩ ∧
      MappedEntity.ofDescriptor ⟨repaintedFerry, []⟩ none =
        MappedEntity.ofDescriptor ⟨ferry, []⟩ none ∧
      (MappedEntity.ofDescriptor ⟨ferry, []⟩ none).outcome.toOption.isSome = true := by
  have hbus : Descriptor.SameButIgnored ⟨bus, [carriage]⟩ ⟨clutteredBus, [carriage]⟩ :=
    ⟨rfl, sameBut_of_filter_eq (by decide +kernel),
      .cons ⟨rfl, sameBut_of_filter_eq (by decide +kernel)⟩ .nil, rfl⟩
  have hferry : Descriptor.SameButIgnored ⟨ferry, []⟩ ⟨repaintedFerry, []⟩ :=
    ⟨rfl, sameBut_of_filter_eq (by decide +kernel),
      .cons ⟨rfl, sameBut_of_filter_eq (by decide +kernel)⟩ .nil, rfl⟩
  exact ⟨⟨hbus, ofDescriptor_of_sameButIgnored hbus none, by decide +kernel⟩,
    hferry, ofDescriptor_of_sameButIgnored hferry none, by decide +kernel⟩

end OrmMapping
