import OrmMapping.Proofs.Batch.Renderings

/-!
# References between documents

Every reference in the documents of a batch means a candidate of its roster, in the same
datasource. Whether there is a record for it depends on the batch. One that stops at its first
error has a record for every candidate. One that goes on resolves references by the names that were
registered at discovery, and an entity that fails afterwards keeps its names: documents can refer to
an entity that was left out.

* `generate_closed_of_failFast`: a batch that stops at its first error has all that its documents
  refer to;
* `record_of_reference_iff`: when what a document refers to has a record.
-/

namespace OrmMapping

variable {s : Settings} {t : FileTree} {r : Roster} {w : Rendering} {records : List EntityRecord}

/-! ## Records and candidates -/

/-- A candidate has a record exactly when it has a rendering. `hread` says that an entity keeps the
name it was registered under, and `hr` that no other candidate has this name. -/
theorem exists_record_iff (hr : r.Represents r.candidates)
    (hread : ∀ c ∈ r.candidates, c.ReadFrom s t)
    (hrecords : records = (r.candidates.filterMap (rendering? s r)).map (·.record s))
    {c : Candidate} (hc : c ∈ r.candidates) :
    (∃ x ∈ records, x.entityName = c.entityName ∧ x.datasource = c.datasource) ↔
      ∃ w, rendering? s r c = some w := by
  constructor
  · rintro ⟨x, hx, hname, -⟩
    rw [hrecords] at hx
    obtain ⟨w, hw, rfl⟩ := List.mem_map.mp hx
    obtain ⟨hmem, hrendered⟩ := mem_filterMap_rendering?.mp hw
    have hsame : w.entity.entityName = w.candidate.entityName :=
      (Rendering.identity_of_readFrom hrendered (hread _ hmem)).1
    -- two candidates with one entity name are the same
    have heq : w.candidate = c := hr.eq_of_entityName hmem hc (hsame.symm.trans hname)
    exact ⟨w, heq ▸ hrendered⟩
  · rintro ⟨w, hw⟩
    obtain ⟨hname, hdatasource⟩ := Rendering.identity_of_readFrom hw (hread c hc)
    refine ⟨w.record s, ?_, hname, hdatasource⟩
    rw [hrecords]
    exact List.mem_map_of_mem (List.mem_filterMap.mpr ⟨c, hc, hw⟩)

/-- The entity names of records differ, whatever the case, as the keys of candidates do (`hr`): by
`hread` both are the same names. -/
theorem pairwise_records (hr : r.Represents r.candidates)
    (hread : ∀ c ∈ r.candidates, c.ReadFrom s t) :
    ((r.candidates.filterMap (rendering? s r)).map (·.record s)).Pairwise
      fun x y => Text.lower x.entityName ≠ Text.lower y.entityName := by
  have hcandidates : ((r.candidates.filterMap (rendering? s r)).map (·.candidate)).Pairwise
      fun a b => a.key ≠ b.key := hr.distinct.sublist (sublist_filterMap_rendering? _)
  rw [List.pairwise_map] at hcandidates ⊢
  refine hcandidates.imp_of_mem ?_
  intro v w hv hw hne
  have hkey : ∀ x ∈ r.candidates.filterMap (rendering? s r),
      Text.lower (x.record s).entityName = x.candidate.key := by
    intro x hx
    obtain ⟨hmem, hrendered⟩ := mem_filterMap_rendering?.mp hx
    exact congrArg Text.lower (Rendering.identity_of_readFrom hrendered (hread _ hmem)).1
  rw [hkey v hv, hkey w hw]
  exact hne

/-- When all candidates are rendered (`hall`), the records are those of their sources, in this
order. -/
theorem map_records (hall : ∀ c ∈ r.candidates, ∃ w, rendering? s r c = some w) :
    ((r.candidates.filterMap (rendering? s r)).map (·.record s)).map
        (fun x => (x.qualifiedName, x.sourcePath)) =
      (r.candidates.map (·.source)).map fun x => (x.qualifiedName, x.path) := by
  have hcandidates := map_filterMap_rendering? hall
  calc ((r.candidates.filterMap (rendering? s r)).map (·.record s)).map
        (fun x => (x.qualifiedName, x.sourcePath))
      = ((r.candidates.filterMap (rendering? s r)).map (·.candidate)).map
          fun c => (c.source.qualifiedName, c.source.path) := by
        rw [List.map_map, List.map_map]
        rfl
    _ = (r.candidates.map (·.source)).map fun x => (x.qualifiedName, x.path) := by
        rw [hcandidates, List.map_map]
        rfl

/-! ## Whole batches -/

/-- A batch that stops at its first error and returns has, in the order of discovery, one record for
each source with a persistent class. Their names differ, and every reference in a document that was
rendered stands for one of them, in the datasource of the entity that refers to it. -/
theorem generate_closed_of_failFast (s : Settings) (t : FileTree) (records : List EntityRecord)
    (hfast : s.failFast = true) (hok : (generate s t).outcome = .ok records) :
    ∃ sources roster, Source.discover t s.searchPaths s.suffixes = .ok sources ∧
      (discover s t).outcome = .ok roster ∧
      records.map (fun x => (x.qualifiedName, x.sourcePath)) =
        (sources.filter (·.isPersistentIn t)).map (fun x => (x.qualifiedName, x.path)) ∧
      records.Pairwise (fun x y => Text.lower x.entityName ≠ Text.lower y.entityName) ∧
      records = (renderings s t).map (·.record s) ∧
      (generate s t).tree = Rendering.writeAll s t (renderings s t) ∧
      ∀ w ∈ renderings s t, ∀ reference ∈ w.references, ∃ x ∈ records,
        x.datasource = (w.record s).datasource ∧
        roster.StandsFor x.datasource reference x.entityName := by
  obtain ⟨roster, hroster, hrenderings, hrun⟩ := generate_completes hok
  obtain ⟨sources, hsources, hrepresents, hcollects⟩ := discover_eq_ok hroster
  have hrecords := Except.ok.inj (hok.symm.trans hrun.outcome)
  have hall := hrun.all hfast
  -- what is left to show stands in the order of the statement
  refine ⟨sources, roster, hsources, hroster, ?_, ?_, ?_, ?_, ?_⟩
  · rw [hrecords, map_records hall, hcollects.all hfast]
  · rw [hrecords]
    exact pairwise_records hrepresents hcollects.read
  · rw [hrenderings, hrecords]
  · rw [hrenderings, hrun.tree]
  · intro w hw reference href
    rw [hrenderings] at hw
    obtain ⟨-, hrendered⟩ := mem_filterMap_rendering?.mp hw
    obtain ⟨c, hc, hdatasource, hstands⟩ :=
      Rendering.exists_candidate_of_reference hrepresents hrendered href
    obtain ⟨x, hx, hname, hsame⟩ :=
      (exists_record_iff hrepresents hcollects.read hrecords hc).mpr (hall c hc)
    have heq : x.datasource = w.entity.datasource := hsame.trans hdatasource
    refine ⟨x, hx, heq, ?_⟩
    rw [heq, hname]
    exact hstands

/-- A file with a text. -/
def textFile (text : String) : FileEntry :=
  .file text.toUTF8.data.toList

/-- Two classes: a tyre refers to the car that it is on, and is read after it. -/
def garage (car : String) : FileTree where
  entries := [
    (["Car.json"], textFile car),
    (["Tyre.json"], textFile <|
      "\x7b\"name\":\"Tyre\",\"annotations\":\x7b\"entity\":\"\"\x7d,\"properties\":[" ++
        "\x7b\"name\":\"id\",\"annotations\":\x7b\"id\":1\x7d\x7d," ++
        "\x7b\"name\":\"car\",\"annotations\":\x7b\"manytoone\":\"Car\"\x7d\x7d]\x7d")]

/-- A car with an identifier. -/
def numberedCar : String :=
  "\x7b\"name\":\"Car\",\"annotations\":\x7b\"entity\":\"\"\x7d,\"properties\":[" ++
    "\x7b\"name\":\"id\",\"annotations\":\x7b\"id\":1\x7d\x7d]\x7d"

/-- A car without an identifier, which cannot be written. -/
def bareCar : String :=
  "\x7b\"name\":\"Car\",\"annotations\":\x7b\"entity\":\"\"\x7d\x7d"

/-- Settings that lead to both classes. -/
def garageSettings (failFast : Bool) : Settings where
  searchPaths := [{ parts := ["Car.json"] }, { parts := ["Tyre.json"] }]
  outputDir := some {}
  failFast

/-- The record of an entity in the garage. -/
def garageRecord (name : String) : EntityRecord where
  entityName := name
  qualifiedName := name
  sourcePath := { parts := [name ++ ".json"] }
  documentPath := { parts := [name ++ ".hbm.xml"] }

/-- Two computations show what a run returns and that one of its documents has a reference. -/
theorem exists_rendering_of_run {reference : String}
    (hrun : (generate s t).outcome.toOption = some records ∧
      (renderings s t).flatMap (·.references) = [reference]) :
    (generate s t).outcome = .ok records ∧
      ∃ w ∈ renderings s t, reference ∈ w.references := by
  refine ⟨eq_ok_of_toOption hrun.1, List.mem_flatMap.mp ?_⟩
  rw [hrun.2]
  exact List.mem_singleton_self reference

/-- With `numberedCar` the batch returns both records, and one of its documents refers to the
car. -/
theorem generate_numberedCar :
    (generate (garageSettings true) (garage numberedCar)).outcome =
        .ok [garageRecord "Car", garageRecord "Tyre"] ∧
      ∃ w ∈ renderings (garageSettings true) (garage numberedCar), "Car" ∈ w.references :=
  exists_rendering_of_run (by decide +kernel)

/-- The reference to `numberedCar` stands for the record of the car. -/
theorem generate_closed_of_failFast_garage :
    (garageSettings true).failFast = true ∧
      (generate (garageSettings true) (garage numberedCar)).outcome =
        .ok [garageRecord "Car", garageRecord "Tyre"] ∧
      ∃ roster, (discover (garageSettings true) (garage numberedCar)).outcome = .ok roster ∧
        ∃ w ∈ renderings (garageSettings true) (garage numberedCar), "Car" ∈ w.references ∧
          ∃ x ∈ [garageRecord "Car", garageRecord "Tyre"],
            roster.StandsFor x.datasource "Car" x.entityName := by
  obtain ⟨hok, w, hw, href⟩ := generate_numberedCar
  have hfast : (garageSettings true).failFast = true := rfl
  obtain ⟨-, roster, -, hroster, -, -, -, -, hclosed⟩ :=
    generate_closed_of_failFast _ _ _ hfast hok
  obtain ⟨x, hx, -, hstands⟩ := hclosed w hw "Car" href
  exact ⟨hfast, hok, roster, hroster, w, hw, href, x, hx, hstands⟩

/-- When a batch returns, every reference in a document that it wrote stands for a candidate in the
datasource of the entity that refers to it. That candidate has a record exactly when it could be
mapped. Otherwise it was left out, which the log says, and the reference leads nowhere. -/
theorem record_of_reference_iff (s : Settings) (t : FileTree) (records : List EntityRecord)
    (hok : (generate s t).outcome = .ok records) :
    ∃ roster, (discover s t).outcome = .ok roster ∧
      records = (renderings s t).map (·.record s) ∧
      (generate s t).tree = Rendering.writeAll s t (renderings s t) ∧
      ∀ w ∈ renderings s t, ∀ reference ∈ w.references, ∃ c ∈ roster.candidates,
        c.datasource = (w.record s).datasource ∧
        roster.StandsFor c.datasource reference c.entityName ∧
        ((∃ x ∈ records, x.entityName = c.entityName ∧ x.datasource = c.datasource) ↔
          ∃ e d, (mapCandidate s roster c).outcome = .ok (e, d)) ∧
        ∀ e, (mapCandidate s roster c).outcome = .error e →
          .skipped c.entityName (.mapping e) ∈ (generate s t).log := by
  -- the batch has gone through all candidates, so what has no record was left out
  obtain ⟨roster, hroster, hrenderings, hrun⟩ := generate_completes hok
  obtain ⟨sources, -, hrepresents, hcollects⟩ := discover_eq_ok hroster
  have hrecords := Except.ok.inj (hok.symm.trans hrun.outcome)
  refine ⟨roster, hroster, by rw [hrenderings, hrecords], by rw [hrenderings, hrun.tree], ?_⟩
  intro w hw reference href
  rw [hrenderings] at hw
  obtain ⟨-, hrendered⟩ := mem_filterMap_rendering?.mp hw
  obtain ⟨c, hc, hdatasource, hstands⟩ :=
    Rendering.exists_candidate_of_reference hrepresents hrendered href
  refine ⟨c, hc, hdatasource, hdatasource.symm ▸ hstands, ?_, hrun.logged c hc⟩
  rw [exists_record_iff hrepresents hcollects.read hrecords hc]
  exact exists_rendering_iff

/-- With `bareCar` the batch goes on and returns the record of the tyre only; the document of the
tyre still refers to the car. -/
theorem generate_bareCar :
    (generate (garageSettings false) (garage bareCar)).outcome = .ok [garageRecord "Tyre"] ∧
      ∃ w ∈ renderings (garageSettings false) (garage bareCar), "Car" ∈ w.references :=
  exists_rendering_of_run (by decide +kernel)

/-- The reference to `bareCar` stands for a candidate that has no record, because it could not be
mapped. -/
theorem record_of_reference_iff_garage :
    (generate (garageSettings false) (garage bareCar)).outcome = .ok [garageRecord "Tyre"] ∧
      ∃ roster, (discover (garageSettings false) (garage bareCar)).outcome = .ok roster ∧
        ∃ w ∈ renderings (garageSettings false) (garage bareCar), "Car" ∈ w.references ∧
          ∃ c ∈ roster.candidates, roster.StandsFor c.datasource "Car" c.entityName ∧
            ((∃ x ∈ [garageRecord "Tyre"],
                x.entityName = c.entityName ∧ x.datasource = c.datasource) ↔
              ∃ e d, (mapCandidate (garageSettings false) roster c).outcome = .ok (e, d)) := by
  obtain ⟨hok, w, hw, href⟩ := generate_bareCar
  obtain ⟨roster, hroster, -, -, hreferences⟩ := record_of_reference_iff _ _ _ hok
  obtain ⟨c, hc, -, hstands, hiff, -⟩ := hreferences w hw "Car" href
  exact ⟨hok, roster, hroster, w, hw, href, c, hc, hstands, hiff⟩

/-- The tyre refers to the car, but the car was left out. -/
theorem reference_without_record :
    ¬ ∀ (s : Settings) (t : FileTree) (records : List EntityRecord), s.failFast = false →
      (generate s t).outcome = .ok records → ∀ w ∈ renderings s t, ∀ reference ∈ w.references,
        ∃ x ∈ records, x.entityName = reference := by
  intro h
  obtain ⟨hok, w, hw, href⟩ := generate_bareCar
  obtain ⟨x, hx, hname⟩ := h _ _ _ rfl hok w hw "Car" href
  rw [List.mem_singleton.mp hx] at hname
  revert hname
  decide

end OrmMapping
