import Mathlib.Data.List.Nodup
import OrmMapping.Entity.Inherited

/-!
# Properties along a chain of classes

A class takes over the properties of the mapped superclasses above it, up to the first class that
is none. At each class of the chain the list that came from above is filtered once more. In the end
a property is left out exactly when a class nearer to the bottom declares its name again, and the
properties stand from the farthest class down to the nearest.

* `ClassDecl.IsMappedSuperclass`, `handsDown_of_isMappedSuperclass`: classes that hand down;
* `contribution`, `contributions`: what each class of a chain gives, and all of them;
* `contributions_cons`: one class more at the bottom;
* `nodup_contributions`: no name comes twice;
* `effectiveProperties_eq_contributions`: the properties of a class.
-/

namespace OrmMapping

variable {c own : ClassDecl} {chain line above : List ClassDecl} {inherited : List PropertyDecl}
  {d : Descriptor} {marked : Bool}

/-! ## Classes that hand down -/

/-- The mark of mapped superclasses, as it is read. -/
def ClassDecl.superclassMark (c : ClassDecl) : Except MappingError Bool :=
  Annotations.flag ⟨c.annotations, c.className, none⟩ "mappedsuperclass"

/-- Whether a class is a mapped superclass: it is marked as one and is not persistent. -/
structure ClassDecl.IsMappedSuperclass (c : ClassDecl) : Prop where
  marked : c.superclassMark = .ok true
  transient : isEntity c.annotations = false

/-- Once the mark is read as `marked`, a class hands down when it is marked and not persistent. -/
theorem handsDown_of_superclassMark (h : c.superclassMark = .ok marked) :
    handsDown c = .ok (marked && !isEntity c.annotations) := by
  unfold ClassDecl.superclassMark at h
  simp only [handsDown, h]
  rfl

/-- Mapped superclasses hand down. -/
theorem handsDown_of_isMappedSuperclass (h : c.IsMappedSuperclass) : handsDown c = .ok true := by
  rw [handsDown_of_superclassMark h.marked, h.transient]
  rfl

/-- A class whose mark can be read and that is no mapped superclass does not hand down. -/
theorem handsDown_of_not_isMappedSuperclass (hread : c.superclassMark = .ok marked)
    (hnot : ¬ c.IsMappedSuperclass) : handsDown c = .ok false := by
  rw [handsDown_of_superclassMark hread]
  cases marked with
  | false => rfl
  | true =>
    cases hpersistent : isEntity c.annotations with
    | true => rfl
    | false => exact absurd ⟨hread, hpersistent⟩ hnot

/-! ## What a chain gives -/

/-- The names of properties without regard to case. -/
def foldedNames (properties : List PropertyDecl) : List String :=
  properties.map fun p => Text.lower p.name

/-- Whether a class declares a property of this name, whatever its case. -/
def ClassDecl.declares (c : ClassDecl) (name : String) : Bool :=
  (foldedNames c.properties).contains (Text.lower name)

/-- What one class of a chain, nearest first, gives: the properties that no class before it
declares again. -/
def contribution (chain : List ClassDecl) (i : Fin chain.length) : List PropertyDecl :=
  chain[i].properties.filter fun p => !(chain.take i).any (·.declares p.name)

/-- What all classes of a chain give, from the farthest to the nearest. -/
def contributions (chain : List ClassDecl) : List PropertyDecl :=
  (List.finRange chain.length).reverse.flatMap (contribution chain)

/-- The nearest class of a chain gives all its properties. -/
theorem contribution_zero : contribution (c :: chain) (0 : Fin (chain.length + 1)) =
    c.properties := by
  simp [contribution]

/-- With `c` before the chain, every class of it gives what it gave, but for the names that `c`
declares. -/
theorem contribution_succ (i : Fin chain.length) :
    contribution (c :: chain) i.succ =
      (contribution chain i).filter fun p => !c.declares p.name := by
  simp [contribution, List.filter_filter, Bool.not_or]

/-- The step lemma: what the chain gave before is overridden by the properties of one class `c` more
at the bottom. -/
theorem contributions_cons :
    contributions (c :: chain) = overrideBy c.properties (contributions chain) := by
  -- the places of the longer chain are its first one and the old ones moved up by one
  have hrest : ((List.finRange chain.length).map Fin.succ).reverse.flatMap
      (contribution (c :: chain)) =
        (contributions chain).filter fun p => !c.declares p.name := by
    rw [contributions, List.filter_flatMap, ← List.map_reverse, List.flatMap_map]
    exact List.flatMap_congr fun i _ => contribution_succ i
  have hplaces : List.finRange (c :: chain).length =
      0 :: (List.finRange chain.length).map Fin.succ := List.finRange_succ
  calc contributions (c :: chain)
      = ((List.finRange chain.length).map Fin.succ).reverse.flatMap (contribution (c :: chain)) ++
          contribution (c :: chain) (0 : Fin (chain.length + 1)) := by
        rw [contributions, hplaces, List.reverse_cons, List.flatMap_append,
          List.flatMap_singleton]
    _ = overrideBy c.properties (contributions chain) := by
        rw [hrest, contribution_zero]
        rfl

/-! ## Names -/

/-- A name that is left after the names of `c` are dropped was there, and `c` does not declare
it. -/
theorem mem_foldedNames_filter {properties : List PropertyDecl} {name : String}
    (h : name ∈ foldedNames (properties.filter fun p => !c.declares p.name)) :
    name ∈ foldedNames properties ∧ name ∉ foldedNames c.properties := by
  obtain ⟨p, hp, rfl⟩ := List.mem_map.mp h
  obtain ⟨hp, hnew⟩ := List.mem_filter.mp hp
  exact ⟨List.mem_map_of_mem hp, by simpa [ClassDecl.declares] using hnew⟩

/-- Overriding keeps names apart: what is inherited makes room for the names that the class declares
itself. -/
theorem nodup_overrideBy (hown : (foldedNames c.properties).Nodup)
    (hinherited : (foldedNames inherited).Nodup) :
    (foldedNames (overrideBy c.properties inherited)).Nodup := by
  have hsplit : foldedNames (overrideBy c.properties inherited) =
      foldedNames (inherited.filter fun p => !c.declares p.name) ++ foldedNames c.properties :=
    List.map_append
  rw [hsplit, List.nodup_append']
  refine ⟨hinherited.sublist (List.filter_sublist.map _), hown, fun name hkept hdeclared => ?_⟩
  exact (mem_foldedNames_filter hkept).2 hdeclared

/-- When no class repeats a name, the chain does not. -/
theorem nodup_contributions (h : ∀ c ∈ chain, (foldedNames c.properties).Nodup) :
    (foldedNames (contributions chain)).Nodup := by
  induction chain with
  | nil => exact List.nodup_nil
  | cons c rest ih =>
    obtain ⟨hown, hrest⟩ := List.forall_mem_cons.mp h
    rw [contributions_cons]
    exact nodup_overrideBy hown (ih hrest)

/-! ## The properties of a class -/

/-- The run lemma: the classes of `line` hand down, and the first class of `above` does not, so the
chain is `own :: line`. -/
theorem effectivePropertiesOf_eq_contributions (hline : ∀ c ∈ line, handsDown c = .ok true)
    (hend : ∀ c ∈ above.head?, handsDown c = .ok false) :
    effectivePropertiesOf own (line ++ above) = .ok (contributions (own :: line)) := by
  -- each class of the line takes the place of `own` for the classes above it
  induction line generalizing own with
  | nil =>
    have halone : contributions [own] = own.properties := by
      rw [contributions_cons]
      rfl
    rw [List.nil_append, halone]
    cases above with
    | nil => rfl
    | cons c beyond =>
      rw [effectivePropertiesOf, hend c rfl]
      rfl
  | cons c rest ih =>
    obtain ⟨hfirst, hrest⟩ := List.forall_mem_cons.mp hline
    rw [List.cons_append, effectivePropertiesOf, hfirst, contributions_cons, ih hrest]
    rfl

/-- The effective properties of a class are the contributions of itself and of the mapped
superclasses `line` right above it. Classes beyond these give nothing, and no name comes twice when
no class of the chain repeats one itself. -/
theorem Descriptor.effectiveProperties_eq_contributions (hchain : d.ancestors = line ++ above)
    (hline : ∀ c ∈ line, c.IsMappedSuperclass)
    (hread : ∀ c ∈ above.head?, ∃ marked, c.superclassMark = .ok marked)
    (hend : ∀ c ∈ above.head?, ¬ c.IsMappedSuperclass) :
    d.effectiveProperties = .ok (contributions (d.own :: line)) ∧
    ((∀ c ∈ d.own :: line, (foldedNames c.properties).Nodup) →
      (foldedNames (contributions (d.own :: line))).Nodup) := by
  refine ⟨?_, nodup_contributions⟩
  rw [Descriptor.effectiveProperties, hchain]
  refine effectivePropertiesOf_eq_contributions
    (fun c hc => handsDown_of_isMappedSuperclass (hline c hc)) fun c hc => ?_
  -- the mark beyond the line has to be readable, as it is read to find the end
  obtain ⟨marked, hmarked⟩ := hread c hc
  exact handsDown_of_not_isMappedSuperclass hmarked (hend c hc)

/-- A class with properties of these names. -/
def classOf (name : String) (annotations : Keyed Value) (names : List String) : ClassDecl where
  name := name
  annotations := annotations
  properties := names.map fun name => { name }

/-- The mapped superclasses of articles, nearest first. -/
def articleLine : List ClassDecl := [
  classOf "Titled" [("mappedsuperclass", .str " yes ")] ["title", "Stamp"],
  classOf "Stamped" [("mappedsuperclass", .null), ("persistent", .str "no")]
    ["id", "stamp", "Body", "Title"]]

/-- Articles, with a persistent class beyond their mapped superclasses. -/
def articleDescriptor : Descriptor where
  own := classOf "Article" [("persistent", .null)] ["TITLE", "body"]
  ancestors := articleLine ++
    [classOf "Record" [("mappedsuperclass", .null), ("persistent", .null)] ["key"]]

theorem Descriptor.effectiveProperties_eq_contributions_article :
    articleDescriptor.effectiveProperties =
      .ok (contributions (articleDescriptor.own :: articleLine)) ∧
    (contributions (articleDescriptor.own :: articleLine)).map (·.name) =
      ["id", "Stamp", "TITLE", "body"] ∧
    (foldedNames (contributions (articleDescriptor.own :: articleLine))).Nodup := by
  have hline : ∀ c ∈ articleLine,
      c.superclassMark.toOption = some true ∧ isEntity c.annotations = false := by
    decide +kernel
  have hbeyond : ∀ c ∈ (articleDescriptor.ancestors.drop 2).head?,
      c.superclassMark.toOption = some true ∧ isEntity c.annotations = true := by
    decide +kernel
  have hchain : articleDescriptor.ancestors = articleLine ++ articleDescriptor.ancestors.drop 2 :=
    rfl
  obtain ⟨heffective, hnames⟩ := Descriptor.effectiveProperties_eq_contributions hchain
    (fun c hc => ⟨eq_ok_of_toOption (hline c hc).1, (hline c hc).2⟩)
    (fun c hc => ⟨true, eq_ok_of_toOption (hbeyond c hc).1⟩)
    (fun c hc hnone => by simpa [hnone.transient] using (hbeyond c hc).2)
  exact ⟨heffective, by decide +kernel, hnames (by decide +kernel)⟩

end OrmMapping
