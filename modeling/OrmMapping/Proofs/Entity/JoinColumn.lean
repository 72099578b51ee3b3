import OrmMapping.Proofs.Entity.Identity
import OrmMapping.Proofs.Entity.PropertyPlaces

/-!
# The column that joins a subclass

A subclass that names no join column is joined on the parent's identifier. The column of the
identifier is looked up among the declarations of the parent by a search that stops at the first
one that has a column. When the parent is mapped as a whole, its identifiers are the same ones in
the same order, whichever vocabularies the two classes are in and whichever mapped superclasses the
identifiers come from.

* `firstColumn?`, `MappedEntity.identifierColumn`: the first column of mapped identifiers;
* `firstIdColumn_of_mappedDecls`: the search finds it;
* `identifierColumn_of_ofDescriptor`: the same for a class that is mapped;
* `MappedEntity.placement_of_parent`: the name and the column that a subclass has of its parent.
-/

namespace OrmMapping

variable {d parent : Descriptor} {decl : PropertyDecl} {decls : List PropertyDecl}
  {dialect : Dialect} {entity : String} {ps : List MappedProperty} {e : MappedEntity}
  {fallback : Option String}

/-- The name of the first column that some properties have. -/
def firstColumn? (ps : List MappedProperty) : Option String :=
  (ps.findSome? (·.column)).map (·.name)

/-- The column of the first identifier that has one. -/
def MappedEntity.identifierColumn (e : MappedEntity) : Option String :=
  firstColumn? e.ids

/-! ## The search -/

/-- The first column of two lists is that of the first list, or else that of the second. -/
theorem firstColumn?_append (ps qs : List MappedProperty) :
    firstColumn? (ps ++ qs) = (firstColumn? ps).or (firstColumn? qs) := by
  rw [firstColumn?, List.findSome?_append, Option.map_or]
  rfl

/-- The step lemma: the search ends at `mapped` if this is an identifier with a column, and else
gives the `column` found in the rest. -/
theorem firstIdColumn_cons {mapped : Option MappedProperty} {column : Option String}
    (hmapped : (MappedProperty.ofDecl decl dialect entity).outcome = .ok mapped)
    (hrest : (Descriptor.firstIdColumn dialect entity decls).outcome = .ok column) :
    (Descriptor.firstIdColumn dialect entity (decl :: decls)).outcome =
      .ok ((firstColumn? (mapped.toList.filter (·.isId))).or column) := by
  rw [Descriptor.firstIdColumn, Report.bind_def, Report.outcome_andThen_eq_ok]
  refine ⟨mapped, hmapped, ?_⟩
  -- not persisted, no identifier, an identifier of a formula, an identifier with a column
  cases mapped with
  | none => exact hrest
  | some p =>
    cases hid : p.isId with
    | false => simpa [firstColumn?, hid] using hrest
    | true =>
      cases hcolumn : p.column with
      | none => simpa [firstColumn?, hid, hcolumn] using hrest
      | some c => simp [firstColumn?, hid, hcolumn]

/-- The run lemma: the search over `decls` finds the first column among the identifiers of all
properties `ps` that they are mapped to. -/
theorem firstIdColumn_of_mappedDecls (h : mappedDecls dialect entity decls = .ok ps) :
    (Descriptor.firstIdColumn dialect entity decls).outcome =
      .ok (firstColumn? (ps.filter (·.isId))) := by
  induction decls generalizing ps with
  | nil =>
    obtain rfl : [] = ps := Except.ok.inj h
    rfl
  | cons decl rest ih =>
    obtain ⟨mapped, others, hmapped, hothers, rfl⟩ := mappedDecls_cons_eq_ok_iff.mp h
    rw [firstIdColumn_cons hmapped (ih hothers), List.filter_append, firstColumn?_append]

/-- For a class that is mapped to `e`, `Descriptor.identifierColumn` finds the first column of the
identifiers of `e`. -/
theorem identifierColumn_of_ofDescriptor
    (h : (MappedEntity.ofDescriptor d fallback).outcome = .ok e) :
    d.identifierColumn.outcome = .ok e.identifierColumn := by
  obtain ⟨ps, hps, harranged⟩ := MappedEntity.exists_arranges_of_ofDescriptor h
  obtain ⟨decls, hdecls, hmapped⟩ := bind_eq_ok.mp hps
  simp only [Descriptor.identifierColumn, Report.bind_def, Report.outcome_andThen_eq_ok,
    Report.liftM_def, Report.outcome_ofExcept]
  refine ⟨e.entityName, (MappedEntity.ofDescriptor_eq_ok h).1, decls, hdecls, ?_⟩
  rw [firstIdColumn_of_mappedDecls hmapped, MappedEntity.identifierColumn, harranged.ids]

/-! ## Subclasses -/

namespace MappedEntity

/-- A subclass `e` of a class that is mapped to `ep` has the entity name of `ep` for its parent. It
is joined on the column that its own annotations name, or else on the first column of the
identifiers of `ep`. -/
theorem placement_of_parent {ep : MappedEntity} {fallback' : Option String}
    (hparent : d.parent? = some parent) (h : (ofDescriptor d fallback).outcome = .ok e)
    (hp : (ofDescriptor parent fallback').outcome = .ok ep) (hsubclass : e.isSubclass = true) :
    ∃ placement named, e.placement = some placement ∧ placement.parent = ep.entityName ∧
      ((d.annotationSet e.entityName).nested "joincolumn").text? "name" = .ok named ∧
      placement.joinColumn = named.or ep.identifierColumn := by
  obtain ⟨parts, hread, rfl⟩ := ofDescriptor_eq_ok_iff.mp h
  obtain ⟨placement, hplacement⟩ := Option.isSome_iff_exists.mp hsubclass
  obtain ⟨_, named, hsome, hmade, hnamed, hown, hinherited⟩ :=
    Placement.parts_of_of? (hread.placement.trans (congrArg Except.ok hplacement))
  obtain rfl := Option.some.inj (hparent.symm.trans hsome)
  have hname : placement.parent = ep.entityName :=
    Except.ok.inj (hmade.parentName.symm.trans (ofDescriptor_eq_ok hp).1)
  refine ⟨placement, named, hplacement, hname, hnamed, ?_⟩
  -- a named column stands as it is, and only without one the parent's identifier is looked up
  cases named with
  | some column => exact hown rfl
  | none =>
    have hcolumn := (hinherited rfl).symm.trans (identifierColumn_of_ofDescriptor hp)
    exact Except.ok.inj hcolumn

/-- Vehicles in the flat vocabulary, with all their identifiers from mapped superclasses: one of a
formula, one with a column of its own, and one that is declared again on the way. -/
def registeredVehicle : Descriptor where
  own := {
    name := "Vehicle"
    annotations := [("persistent", .null), ("entityname", .str "Motor Vehicle")]
    properties := [{ name := "wheels" }] }
  ancestors := [
    { name := "Registered"
      annotations := [("mappedsuperclass", .null)]
      properties := [⟨"Code", [("fieldtype", .str "id"), ("column", .str "reg_code")]⟩] },
    { name := "Stored"
      annotations := [("mappedsuperclass", .str "yes")]
      properties := [
        ⟨"tag", [("fieldtype", .str "id"), ("formula", .str "upper(tag)")]⟩,
        ⟨"code", [("fieldtype", .str "id")]⟩,
        ⟨"serial", [("fieldtype", .str "id"), ("column", .str "serial_no")]⟩] }]

/-- Trucks in the structured vocabulary, with a join column that has no name. -/
def registeredTruck : Descriptor :=
  .extending
    { name := "Truck"
      annotations := [("entity", .str ""), ("joincolumn", .str " ")]
      properties := [{ name := "load" }] }
    (some registeredVehicle)

theorem placement_of_parent_truck :
    ∃ e ep placement, registeredTruck.parent? = some registeredVehicle ∧
      (ofDescriptor registeredTruck none).outcome = .ok e ∧
      (ofDescriptor registeredVehicle none).outcome = .ok ep ∧ e.isSubclass = true ∧
      e.placement = some placement ∧ placement.parent = ep.entityName ∧
      placement.joinColumn = ep.identifierColumn ∧
      ep.ids.map (fun p => (p.name, p.column.map (·.name))) =
        [("tag", none), ("serial", some "serial_no"), ("Code", some "reg_code")] := by
  have htruck : (ofDescriptor registeredTruck none).outcome.toOption.map
      (fun e => (e.entityName, e.isSubclass)) = some ("Truck", true) := by
    decide +kernel
  have hvehicle : (ofDescriptor registeredVehicle none).outcome.toOption.map
      (fun ep => ep.ids.map fun p => (p.name, p.column.map (·.name))) =
        some [("tag", none), ("serial", some "serial_no"), ("Code", some "reg_code")] := by
    decide +kernel
  have hunnamed : ((registeredTruck.annotationSet "Truck").nested "joincolumn").text? "name" =
      .ok none := eq_ok_of_toOption (by decide +kernel)
  obtain ⟨e, he, hparts⟩ := Option.map_eq_some_iff.mp htruck
  obtain ⟨hname, hsubclass⟩ := Prod.mk.inj hparts
  obtain ⟨ep, hep, hids⟩ := Option.map_eq_some_iff.mp hvehicle
  obtain ⟨placement, named, hplacement, hparent, hnamed, hcolumn⟩ :=
    placement_of_parent rfl (eq_ok_of_toOption he) (eq_ok_of_toOption hep) hsubclass
  rw [hname, hunnamed] at hnamed
  obtain rfl : none = named := Except.ok.inj hnamed
  exact ⟨e, ep, placement, rfl, eq_ok_of_toOption he, eq_ok_of_toOption hep, hsubclass,
    hplacement, hparent, hcolumn, hids⟩

end MappedEntity

end OrmMapping
