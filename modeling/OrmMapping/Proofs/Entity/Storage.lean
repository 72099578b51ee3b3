import OrmMapping.Proofs.Document.Outline
import OrmMapping.Proofs.Entity.Identity
import OrmMapping.Proofs.Entity.Soundness

/-!
# Where subclasses are stored

A subclass that is told by a discriminator value and declares no table shares the table of its
parent. The table that a placement keeps of the parent is the one that the parent declares, or else
the parent's name. That is where the parent is stored, unless the parent shares a table itself.

* `ClassFacts.tableName_eq`: the table that is read of a class;
* `MappedEntity.SharesTable`, `tableName_of_ofDescriptor`: where a mapped class is stored;
* `joins_element`: when a document has a join;
* `parentTable_eq_iff`: when a placement has the table that the parent is stored in;
* `parentTable_not_stored`: a hierarchy of three classes in one table.
-/

namespace OrmMapping

variable {d parent : Descriptor} {a : Annotations} {name : String} {facts : ClassFacts}
  {discriminator : Option Discriminator} {placement : Placement} {e e' : MappedEntity}
  {fallback : Option String}

/-! ## What is read -/

/-- The facts of a class carry the table that its descriptor declares, or else its name. -/
theorem ClassFacts.tableName_eq (h : ClassFacts.read d = .ok facts) :
    ∃ table, d.declaredTable = .ok table ∧ facts.tableName = table.getD facts.entityName := by
  have hname := ClassFacts.read_eq_ok h
  rw [ClassFacts.read, hname] at h
  unfold Descriptor.declaredTable
  cases hdialect : d.dialect with
  | classic =>
    rw [hdialect] at h
    exact (ClassFacts.classicFrom_of_read h).tableName
  | modern =>
    rw [hdialect] at h
    exact (ClassFacts.modernFrom_of_read h).tableName

namespace MappedEntity

/-- Whether a class is kept in the table of its parent: it is told by a discriminator value and
declares no table. -/
def SharesTable (e : MappedEntity) (d : Descriptor) : Prop :=
  d.declaredTable = .ok none ∧ ∃ p ∈ e.placement, p.isDiscriminated = true

/-- A mapped class that shares a table is stored in the table that its placement has of the parent;
any other one is stored in the table that it declares, or else under its entity name. -/
theorem tableName_of_ofDescriptor (h : (ofDescriptor d fallback).outcome = .ok e) :
    (e.SharesTable d → ∀ p ∈ e.placement, e.tableName = p.parentTable) ∧
    (¬ e.SharesTable d →
      ∃ table, d.declaredTable = .ok table ∧ e.tableName = table.getD e.entityName) := by
  obtain ⟨⟨_, facts, placement, declared, _, _, _⟩, hread, rfl⟩ := ofDescriptor_eq_ok_iff.mp h
  obtain ⟨table, htable, hname⟩ := ClassFacts.tableName_eq hread.facts
  have hname : facts.tableName = table.getD facts.entityName := hname
  obtain rfl : table = declared := Except.ok.inj (htable.symm.trans hread.declared)
  constructor
  · rintro ⟨hnone, p, hp, hvalue⟩ p' hp'
    obtain rfl : p = p' := Option.some.inj (hp.symm.trans hp')
    obtain rfl : placement = some p := hp
    obtain rfl : table = none := Except.ok.inj (htable.symm.trans hnone)
    show tableAt facts none (some p) = p.parentTable
    simp only [tableAt, hvalue, Option.isNone_none, Bool.and_self, if_true]
  · intro hown
    refine ⟨table, htable, ?_⟩
    show tableAt facts table placement = table.getD facts.entityName
    rw [← hname]
    -- without sharing, `tableAt` falls back on the table of the facts
    unfold tableAt
    split
    · next p =>
      split
      · next hshares =>
        rw [Bool.and_eq_true, Option.isNone_iff_eq_none] at hshares
        obtain ⟨hvalue, rfl⟩ := hshares
        exact absurd ⟨htable, p, rfl, hvalue⟩ hown
      · rfl
    · rfl

end MappedEntity

/-! ## Joins -/

/-- The joins with another table that an element has. -/
def Element.joins (x : Element) : List Element :=
  x.children.filter (·.tag == "join")

/-- The elements of relationships are no joins, as collections have tags of their own. -/
theorem tag_of_mem_associations {ps : List MappedProperty} (quoteAll : Bool)
    (htags : ∀ p ∈ ps, ∀ r ∈ p.association, r.collectionTag ≠ "join") :
    ∀ x ∈ Layout.associations quoteAll ps, x.tag ≠ "join" := by
  refine (Layout.forall_mem_associations quoteAll).mpr fun p hp r hr => ?_
  rw [Layout.tag_association]
  exact Layout.associationTag_ne r (by decide) (htags p hp r hr)

/-- The elements of properties are no joins, either. -/
theorem tag_of_mem_properties (quoteAll : Bool) (e : MappedEntity) :
    ∀ x ∈ Layout.properties quoteAll e, x.tag ≠ "join" := by
  refine (Layout.forall_mem_properties quoteAll e).mpr fun p _ => ?_
  simp [Layout.property, Element.tag]

namespace MappedEntity

/-- The element of a subclass has a join when the subclass is told by a discriminator value and has
another table than its placement. -/
theorem joins_element (placement : Placement) (hplacement : e.placement = some placement)
    (htags : ∀ p ∈ e.properties, ∀ r ∈ p.association, r.collectionTag ≠ "join")
    (quoteAll : Bool) :
    (e.element quoteAll).joins ≠ [] ↔
      placement.isDiscriminated = true ∧ e.tableName ≠ placement.parentTable := by
  have hassociations := tag_of_mem_associations quoteAll htags
  have hproperties := tag_of_mem_properties quoteAll e
  have helement : e.element quoteAll = Layout.subclassElement quoteAll e placement := by
    unfold element
    rw [hplacement]
  have hjoins : ∀ x : Element, x.joins ≠ [] ↔ ∃ child ∈ x.children, child.tag = "join" := by
    simp [Element.joins]
  rw [helement, hjoins]
  unfold Layout.subclassElement
  cases hvalue : placement.isDiscriminated with
  | false =>
    -- a table of its own: the key, the properties and the relationships
    simp only [Bool.false_eq_true, if_false, false_and, iff_false]
    rintro ⟨child, hchild, htag⟩
    rcases List.mem_cons.mp hchild with rfl | hchild
    · exact absurd htag (by simp [Layout.joinKey, Element.tag])
    · rcases List.mem_append.mp hchild with hchild | hchild
      · exact hproperties child hchild htag
      · exact hassociations child hchild htag
  | true =>
    simp only [if_true, true_and, Layout.discriminatedElement, Element.children]
    by_cases htable : e.tableName = placement.parentTable
    · simp only [htable, BEq.rfl, if_true, ne_eq, not_true_eq_false, iff_false]
      rintro ⟨child, hchild, htag⟩
      rcases List.mem_append.mp hchild with hchild | hchild
      · exact hproperties child hchild htag
      · exact hassociations child hchild htag
    · rw [if_neg (by simpa using htable)]
      exact ⟨fun _ => htable, fun _ => ⟨_, List.mem_append_right _ List.mem_cons_self, rfl⟩⟩

/-- For `e'`, which is `e` or comes of `e` by resolution, the element has a join when the subclass
is told by a discriminator value and `e` has another table than its placement. -/
theorem joins_element_of_ofDescriptor (h : (ofDescriptor d fallback).outcome = .ok e)
    (hplacement : e.placement = some placement)
    (hresolved : e' = e ∨ ∃ r : Roster, r.resolve e = .ok e') (quoteAll : Bool) :
    (e'.element quoteAll).joins ≠ [] ↔
      placement.isDiscriminated = true ∧ e.tableName ≠ placement.parentTable := by
  have htags : ∀ p ∈ e'.properties, ∀ r ∈ p.association, r.collectionTag ≠ "join" := by
    intro p hp r hr
    rcases (sound_of_yields ⟨e, h, hresolved⟩).tags p hp r hr with htag | htag
    · rw [htag]
      decide
    · rw [htag]
      decide
  rcases hresolved with rfl | ⟨roster, hroster⟩
  · exact joins_element placement hplacement htags quoteAll
  · -- resolution keeps the tables and the discriminator value
    obtain ⟨-, -, rfl⟩ := Roster.resolve_eq_ok_iff.mp hroster
    have hplaced : (e.withReferents (roster.findFor e)).placement =
        some (placement.withReferent (roster.findFor e)) := by
      rw [withReferents, hplacement, Option.map_some]
    exact joins_element _ hplaced htags quoteAll

/-! ## The table of the parent -/

/-- A placement has the table that the parent is stored in unless the parent is kept in another
table than its own without declaring it. Where it has that table, a subclass that shares the table
of its parent is stored there, and a document has a join when the tables differ. -/
theorem parentTable_eq_iff {ep : MappedEntity} {fallback' : Option String}
    (hparent : d.parent? = some parent) (h : (ofDescriptor d fallback).outcome = .ok e)
    (hp : (ofDescriptor parent fallback').outcome = .ok ep)
    (hplacement : e.placement = some placement) :
    (placement.parentTable = ep.tableName ↔
      (ep.SharesTable parent → ep.tableName = ep.entityName)) ∧
    (placement.parentTable = ep.tableName →
      (e.SharesTable d → e.tableName = ep.tableName) ∧
      ∀ e' quoteAll, (e' = e ∨ ∃ r : Roster, r.resolve e = .ok e') →
        ((e'.element quoteAll).joins ≠ [] ↔
          placement.isDiscriminated = true ∧ e.tableName ≠ ep.tableName)) := by
  obtain ⟨_, hsome, hmade⟩ := placement_of_ofDescriptor h hplacement
  obtain rfl := Option.some.inj (hparent.symm.trans hsome)
  obtain ⟨declared, hdeclared, htable⟩ := hmade.table
  have hparentName : ep.entityName = placement.parent :=
    Except.ok.inj ((ofDescriptor_eq_ok hp).1.symm.trans hmade.parentName)
  refine ⟨?_, fun heq => ⟨fun hshares => ?_, fun e' quoteAll hresolved => ?_⟩⟩
  · -- a parent that shares a table is stored elsewhere than under its name
    by_cases hshares : ep.SharesTable parent
    · obtain rfl : none = declared := Except.ok.inj (hshares.1.symm.trans hdeclared)
      rw [htable, Option.getD_none, ← hparentName]
      exact ⟨fun heq _ => heq.symm, fun heq => (heq hshares).symm⟩
    · obtain ⟨own, hown, hstored⟩ := (tableName_of_ofDescriptor hp).2 hshares
      obtain rfl : own = declared := Except.ok.inj (hown.symm.trans hdeclared)
      rw [htable, hstored, hparentName]
      exact ⟨fun _ hparent => absurd hparent hshares, fun _ => rfl⟩
  · exact ((tableName_of_ofDescriptor h).1 hshares placement hplacement).trans heq
  · rw [← heq]
    exact joins_element_of_ofDescriptor h hplacement hresolved quoteAll

/-- Vehicles, in a table of another name. -/
def vehicleDescriptor : Descriptor where
  own := {
    name := "Vehicle"
    annotations := [("entity", .str ""), ("table", .str "vehicles")]
    properties := [⟨"id", [("id", .int 1)]⟩] }

/-- A class that is told by a discriminator value and declares no table. -/
def toldBy (name value : String) : ClassDecl where
  name := name
  annotations := [("entity", .str ""), ("discriminator", .str value)]

/-- What such a class is mapped to below a parent. -/
def toldEntity (name value : String) (p : Placement) : MappedEntity where
  entityName := name
  tableName := p.parentTable
  ids := []
  extended := true
  lazy := true
  discriminator := some { value := some value }
  placement := some { p with discriminatorValue := some value }

/-- Cars, which are vehicles and share their table. -/
def carDescriptor : Descriptor := .extending (toldBy "Car" "C") (some vehicleDescriptor)

/-- The mapping of cars. -/
def carEntity : MappedEntity :=
  toldEntity "Car" "C" { parent := "Vehicle", parentTable := "vehicles", joinColumn := some "id" }

/-- Cars share the table of vehicles, and their element has no join. -/
theorem parentTable_eq_iff_car :
    carDescriptor.parent? = some vehicleDescriptor ∧
    (ofDescriptor carDescriptor none).outcome = .ok carEntity ∧
    ∃ vehicle, (ofDescriptor vehicleDescriptor none).outcome = .ok vehicle ∧
      vehicle.tableName = "vehicles" ∧
      (carEntity.SharesTable carDescriptor → carEntity.tableName = vehicle.tableName) ∧
      ∀ quoteAll, (carEntity.element quoteAll).joins = [] := by
  have hparent : carDescriptor.parent? = some vehicleDescriptor := rfl
  have hcar : (ofDescriptor carDescriptor none).outcome.toOption = some carEntity := by
    decide +kernel
  have hcar := eq_ok_of_toOption hcar
  have htable : (ofDescriptor vehicleDescriptor none).outcome.toOption.map (·.tableName) =
      some "vehicles" := by decide +kernel
  obtain ⟨vehicle, hvehicle, htable⟩ := Option.map_eq_some_iff.mp htable
  have hvehicle := eq_ok_of_toOption hvehicle
  obtain ⟨-, hstored⟩ := parentTable_eq_iff hparent hcar hvehicle rfl
  obtain ⟨hshares, hjoins⟩ := hstored htable.symm
  refine ⟨hparent, hcar, vehicle, hvehicle, htable, hshares, fun quoteAll => ?_⟩
  refine Classical.not_not.mp fun hjoin => ?_
  exact ((hjoins carEntity quoteAll (Or.inl rfl)).mp hjoin).2 htable.symm

/-- Coupés, which are cars and declare no table either. -/
def coupeDescriptor : Descriptor := .extending (toldBy "Coupe" "S") (some carDescriptor)

/-- The mapping of coupés. -/
def coupeEntity : MappedEntity :=
  toldEntity "Coupe" "S" { parent := "Car", parentTable := "Car" }

/-- The placement of coupés has the table `Car`, although cars themselves are kept in `vehicles`. -/
theorem parentTable_not_stored :
    coupeDescriptor.parent? = some carDescriptor ∧ carDescriptor.isPersistent = true ∧
    (ofDescriptor carDescriptor none).outcome = .ok carEntity ∧
    (ofDescriptor coupeDescriptor none).outcome = .ok coupeEntity ∧
    coupeEntity.placement.map (·.parentTable) ≠ some carEntity.tableName ∧
    coupeEntity.tableName ≠ carEntity.tableName := by
  have hcar : (ofDescriptor carDescriptor none).outcome.toOption = some carEntity := by
    decide +kernel
  have hcoupe : (ofDescriptor coupeDescriptor none).outcome.toOption = some coupeEntity := by
    decide +kernel
  exact ⟨rfl, by decide +kernel, eq_ok_of_toOption hcar, eq_ok_of_toOption hcoupe, by decide,
    by decide⟩

end MappedEntity

end OrmMapping
