import OrmMapping.Proofs.Batch.Documents

/-!
# Where documents go

A document is to stand in the directory that is settled for its source, under the name of its
entity. The path of a document is made of that directory and the entity name, read as a path, and
an entity name is any text that a descriptor declares. A name without slashes is one step; a name
with a slash leads somewhere else, possibly out of the directory.

* `Batch.Yields`: the records of a batch, whatever happens to the files between its steps;
* `Yields.exists_eq_of`: what one step preserves, and all steps;
* `yields_of_generate`: a run to the end gives such records;
* `inside_iff_of_yields`: when a document stands where it is to stand;
* `document_outside`: a document that is written next to its directory.
-/

namespace OrmMapping

variable {s : Settings} {r : Roster} {t : FileTree} {c : Candidate} {cs : List Candidate}
  {b : Batch} {record : EntityRecord}

/-! ## Paths of documents -/

/-- The path of a document ends with a name without slashes, whatever the entity name: its slashes
are read as steps, and the ending has none. -/
theorem exists_documentPath_eq (s : Settings) (source : Path) (name : String) :
    ∃ anchor above stem, '/' ∉ stem.toList ∧
      s.documentPath source name = ⟨anchor, above ++ [stem ++ documentSuffix]⟩ := by
  have hslash : '/' ∉ documentSuffix.toList := by decide
  have hlong : 2 ≤ documentSuffix.length := by decide
  obtain ⟨above, stem, hstem, hpath⟩ := Path.exists_ofString_append hslash hlong name
  rw [Settings.documentPath, hpath, Path.join]
  split
  · exact ⟨_, (s.outputDirectory source).parts ++ above, stem, hstem, by
      rw [List.append_assoc]⟩
  · exact ⟨_, above, stem, hstem, rfl⟩

/-- A document stands in the directory of its source under the name of its entity exactly when that
name has no slash. -/
theorem documentPath_inside_iff (s : Settings) (source : Path) (name : String) :
    ((s.documentPath source name).parent = s.outputDirectory source ∧
      (s.documentPath source name).name = name ++ documentSuffix) ↔ '/' ∉ name.toList := by
  constructor
  · rintro ⟨-, hname⟩ hslash
    obtain ⟨anchor, above, stem, hstem, hpath⟩ := exists_documentPath_eq s source name
    -- the last name of a path has no slash, so it is not the entity's
    have hlast : stem ++ documentSuffix = name ++ documentSuffix := by
      rw [← hname, hpath, Path.name, List.getLast?_concat, Option.getD_some]
    rw [(String.append_left_inj documentSuffix).mp hlast] at hstem
    exact hstem hslash
  · intro hslash
    rw [documentPath_of_not_mem s source hslash]
    exact ⟨by rw [Path.parent, List.dropLast_concat],
      by rw [Path.name, List.getLast?_concat, Option.getD_some]⟩

/-! ## Batches step by step -/

/-- A batch yields a record, now or after further steps. What stands in the files is open at every
step, so that others may work on them in between. -/
inductive Batch.Yields : Batch → EntityRecord → Prop
  | now {b : Batch} {t : FileTree} {record : EntityRecord}
      (step : (b.next t).outcome = .ok (some record)) : b.Yields record
  | later {b : Batch} {t : FileTree} {record : EntityRecord}
      (rest : (b.next t).batch.Yields record) : b.Yields record

/-- A run to the next document keeps the settings `s`, and a record that it gives is that of a
candidate under them. -/
theorem advance_spec (s : Settings) (r : Roster) (t : FileTree) (cs : List Candidate) :
    (Batch.advance s r t cs).batch.settings = s ∧
      ∀ record, (Batch.advance s r t cs).outcome = .ok (some record) →
        ∃ c e, record = .of s c e := by
  induction cs generalizing t with
  | nil =>
    refine ⟨rfl, fun record hrecord => ?_⟩
    cases hrecord
  | cons c rest ih =>
    rcases attempt_cases s r t c with
      ⟨w, -, -, hattempt⟩ | ⟨w, e, -, -, hattempt⟩ | ⟨e, -, -, hattempt⟩ | ⟨e, -, -, hattempt⟩
    · -- a document is written, which gives the record
      simp only [Batch.advance, hattempt]
      refine ⟨trivial, fun record hrecord => ?_⟩
      cases hrecord
      exact ⟨w.candidate, w.entity, rfl⟩
    · simp only [Batch.advance, hattempt]
      refine ⟨trivial, fun record hrecord => ?_⟩
      cases hrecord
    · -- the candidate is left out, and the run goes on
      simp only [Batch.advance, hattempt]
      exact ih t
    · simp only [Batch.advance, hattempt]
      refine ⟨trivial, fun record hrecord => ?_⟩
      cases hrecord

/-- One step of a batch, whatever its stage, keeps the settings, and a record that it gives is that
of a candidate under them. -/
theorem next_spec (b : Batch) (t : FileTree) :
    (b.next t).batch.settings = b.settings ∧
      ∀ record, (b.next t).outcome = .ok (some record) → ∃ c e, record = .of b.settings c e := by
  unfold Batch.next
  split
  · refine ⟨rfl, fun record hrecord => ?_⟩
    cases hrecord
  · exact advance_spec b.settings _ t _
  · -- discovery comes first
    simp only
    split
    · refine ⟨rfl, fun record hrecord => ?_⟩
      cases hrecord
    · exact advance_spec b.settings _ t _

/-- Every record that a batch yields is that of a candidate under the settings of the batch. By
induction over the steps, with `next_spec` for each. -/
theorem Batch.Yields.exists_eq_of (h : b.Yields record) :
    ∃ c e, record = .of b.settings c e := by
  induction h with
  | @now b t record step => exact (next_spec b t).2 record step
  | @later b t record _ ih =>
    rw [(next_spec b t).1] at ih
    exact ih

/-! ## Runs to the end -/

/-- The records of a run are those that its steps give, from the first one on. -/
theorem yields_of_runAll {records : List EntityRecord}
    (hok : (runAll s r t cs).outcome = .ok records) (hmem : record ∈ records) :
    (Batch.advance s r t cs).outcome = .ok (some record) ∨
      (Batch.advance s r t cs).batch.Yields record := by
  induction cs generalizing t records with
  | nil =>
    cases hok
    cases hmem
  | cons c rest ih =>
    rcases attempt_cases s r t c with
      ⟨w, -, -, hattempt⟩ | ⟨w, e, -, -, hattempt⟩ | ⟨e, -, -, hattempt⟩ | ⟨e, -, -, hattempt⟩
    · simp only [runAll, Batch.advance, hattempt] at hok ⊢
      cases hrest : (runAll s r (w.write s t).tree rest).outcome with
      | error e =>
        rw [hrest] at hok
        cases hok
      | ok others =>
        rw [hrest] at hok
        cases hok
        rcases List.mem_cons.mp hmem with rfl | hmem
        · exact Or.inl rfl
        · -- what is left of the batch goes on with the rest
          rcases ih hrest hmem with hfirst | hlater
          · exact Or.inr (.now hfirst)
          · exact Or.inr (.later hlater)
    · -- a run that ends with an error returns no records
      simp only [runAll, hattempt] at hok
      cases hok
    · simp only [runAll, Batch.advance, hattempt] at hok ⊢
      exact ih hok hmem
    · simp only [runAll, hattempt] at hok
      cases hok

/-- The records that a whole batch returns are records that it yields. -/
theorem yields_of_generate {records : List EntityRecord}
    (hok : (generate s t).outcome = .ok records) (hmem : record ∈ records) :
    (⟨s, .pending⟩ : Batch).Yields record := by
  cases hdiscover : (discover s t).outcome with
  | error e =>
    simp only [generate, hdiscover] at hok
    cases hok
  | ok r =>
    simp only [generate, hdiscover] at hok
    -- the first step discovers and takes the first candidates
    rcases yields_of_runAll hok hmem with hfirst | hlater
    · refine .now (t := t) ?_
      simp only [Batch.next, hdiscover, hfirst]
    · refine .later (t := t) ?_
      simp only [Batch.next, hdiscover]
      exact hlater

/-! ## Inside and outside -/

/-- Of whatever batch, and whatever happens to the files between its steps: the document of a record
stands in the directory that is settled for its source, under the entity name and the common
ending, exactly when the entity name has no slash. -/
theorem inside_iff_of_yields (b : Batch) (record : EntityRecord) (hyields : b.Yields record) :
    (record.documentPath.parent = b.settings.outputDirectory record.sourcePath ∧
      record.documentPath.name = record.entityName ++ documentSuffix) ↔
        '/' ∉ record.entityName.toList := by
  obtain ⟨c, e, rfl⟩ := hyields.exists_eq_of
  exact documentPath_inside_iff b.settings c.source.path e.entityName

/-- The garage has its documents where they are to stand. -/
theorem inside_iff_of_yields_garage :
    (⟨garageSettings true, .pending⟩ : Batch).Yields (garageRecord "Car") ∧
      (garageRecord "Car").documentPath.parent =
        (garageSettings true).outputDirectory (garageRecord "Car").sourcePath ∧
      (garageRecord "Car").documentPath.name = "Car" ++ documentSuffix := by
  have hyields : (⟨garageSettings true, .pending⟩ : Batch).Yields (garageRecord "Car") :=
    yields_of_generate generate_numberedCar.1 List.mem_cons_self
  exact ⟨hyields, (inside_iff_of_yields _ _ hyields).mpr (by decide)⟩

/-- A class whose entity name leads out of a directory. -/
def strayCar : FileTree where
  entries := [
    (["models"], .directory),
    (["models", "Car.json"], textFile <|
      "\x7b\"name\":\"Car\",\"annotations\":\x7b\"entity\":\"../Car\"\x7d,\"properties\":[" ++
        "\x7b\"name\":\"id\",\"annotations\":\x7b\"id\":1\x7d\x7d]\x7d")]

/-- Settings with a directory for its document. -/
def straySettings : Settings where
  searchPaths := [{ parts := ["models"] }]
  outputDir := some { parts := ["out"] }

/-- The record of the class. -/
def strayRecord : EntityRecord where
  entityName := "../Car"
  qualifiedName := "Car"
  sourcePath := { parts := ["models", "Car.json"] }
  documentPath := { parts := ["out", "..", "Car.hbm.xml"] }

/-- The batch returns the record of the class, with a step up in the path of its document. -/
theorem generate_strayCar :
    (generate straySettings strayCar).outcome.toOption = some [strayRecord] := by
  decide +kernel

/-- The document of the class is written next to the directory of its source and not into it. -/
theorem document_outside :
    ¬ ∀ (b : Batch) (record : EntityRecord), b.Yields record →
      record.documentPath.parent = b.settings.outputDirectory record.sourcePath ∧
        record.documentPath.name = record.entityName ++ documentSuffix := by
  intro h
  have hyields : (⟨straySettings, .pending⟩ : Batch).Yields strayRecord :=
    yields_of_generate (eq_ok_of_toOption generate_strayCar) List.mem_cons_self
  obtain ⟨hparent, -⟩ := h _ _ hyields
  revert hparent
  decide

end OrmMapping
