import OrmMapping.Proofs.Batch.Influence
import OrmMapping.Proofs.Batch.Sources
import OrmMapping.Proofs.Document.Faults
import OrmMapping.Proofs.Entity.Soundness
import OrmMapping.Proofs.Files.Faults

/-!
# How a batch can end

A batch that goes on after errors returns, or a document cannot be written, whatever the descriptors
say: all that is wrong with them is logged, and every error in the log is one of the kinds that are
meant for it. A search path that is too long for the system is the one exception; the error of the
system then ends the batch before it has begun.

* `BatchError.isPromised`: the kinds of errors that are meant for descriptors and documents;
* `enter_promised`, `mapCandidate_promised`: one source and one candidate;
* `discover_ending`, `runAll_ending`: all sources and all candidates;
* `generate_ending`: whole batches;
* `generate_overlong`: a search path that is too long.
-/

namespace OrmMapping

/-- Whether an error is meant for what is wrong with a descriptor or with writing a document. The
others are those of the system as they come, and an identifier that is looked for and not there. -/
def BatchError.isPromised : BatchError → Bool
  | .load (.refused _ _) => true
  | .load (.impossiblePath _) => false
  | .mapping (.unbuildable _ .missingIdentifier) => false
  | .mapping _ => true
  | .write _ _ _ => true
  | .unusablePath _ => false

/-- A log whose errors are all of the kinds that are meant for it. -/
def IsPromised (log : List LogRecord) : Prop :=
  ∀ label e, .skipped label e ∈ log → e.isPromised = true

variable {s : Settings} {t : FileTree} {r : Roster} {source : Source} {sources : List Source}
  {c : Candidate} {cs : List Candidate} {w : Rendering} {log log' : List LogRecord}

/-- An empty log has no errors. -/
theorem isPromised_nil : IsPromised [] := by
  intro label e h
  cases h

/-- Two logs whose errors are meant for them make another one. -/
theorem IsPromised.append (h : IsPromised log) (h' : IsPromised log') :
    IsPromised (log ++ log') := by
  intro label e hmem
  rcases List.mem_append.mp hmem with hmem | hmem
  · exact h label e hmem
  · exact h' label e hmem

/-- One error of a kind that is meant for the log makes such a log. -/
theorem isPromised_singleton {label : String} {e : BatchError} (h : e.isPromised = true) :
    IsPromised [.skipped label e] := by
  intro label' e' hmem
  cases List.mem_singleton.mp hmem
  exact h

/-- Warnings are no errors. -/
theorem isPromised_warnings (s : Settings) (r : Roster) (c : Candidate) :
    IsPromised (warnings s r c) := by
  intro label e hmem
  obtain ⟨notice, -, hwarning⟩ := List.mem_map.mp hmem
  cases hwarning

/-! ## Discovery -/

/-- A fault that blames annotations is one that is meant for the log. -/
theorem Blames.isPromised {α : Type} {x : Except MappingError α} (h : Blames x) {e : MappingError}
    (he : x = .error e) : (BatchError.mapping e).isPromised = true := by
  obtain ⟨entity, owner, fault, rfl⟩ := h e he
  rfl

/-- What is wrong with the file of a descriptor is meant for the log, unless its path itself is at
fault. -/
theorem load_promised {path : Path} {e : LoadError} (hpath : FileTree.pathFault? path = none)
    (h : Descriptor.load t path = .error e) : (BatchError.load e).isPromised = true := by
  unfold Descriptor.load at h
  split at h
  · next fault hread =>
    have hfault : fault.fault ≠ .nullCharacter := by
      unfold FileTree.read FileTree.locate at hread
      rw [hpath] at hread
      dsimp only at hread
      split at hread
      · next walkFault hwalk =>
        cases hread
        rintro rfl
        exact FileTree.walk_ne_nullCharacter _ _ _ hwalk
      · split at hread <;> cases hread <;> simp
    rw [if_neg (by simpa using hfault)] at h
    cases h
    rfl
  · next content _ =>
    obtain ⟨fault, -, rfl⟩ := mapError_eq_error.mp h
    rfl

/-- What is wrong with a source is wrong with its file, or with its annotations, or its name is
taken; all of this is meant for the log. -/
theorem enter_promised {e : BatchError} (hpath : FileTree.pathFault? source.path = none)
    (h : r.enter s t source = .error e) : e.isPromised = true := by
  unfold Roster.enter at h
  split at h
  · next fault hload =>
    cases h
    exact load_promised hpath hload
  · next d _ =>
    split at h
    · obtain ⟨fault, hfailed, rfl⟩ := mapError_eq_error.mp h
      rcases bind_eq_error.mp hfailed with hof | ⟨c, -, hregister⟩
      · have hblames : Blames (Candidate.of s source d) :=
          .bind entityName_blames fun _ => .bind datasource_blames fun _ => blames_pure _
        exact hblames.isPromised hof
      · unfold Roster.register at hregister
        dsimp only at hregister
        split at hregister
        · cases hregister
          rfl
        · cases hregister
    · cases h

/-- In a batch that goes on, the log of discovery has errors only that are meant for it. -/
theorem enterAll_ending (hslow : s.failFast = false) (t : FileTree) (r : Roster)
    (hpaths : ∀ source ∈ sources, FileTree.pathFault? source.path = none) :
    IsPromised (Roster.enterAll s t r sources).log := by
  induction sources generalizing r with
  | nil => exact isPromised_nil
  | cons source rest ih =>
    have hrest := fun r => ih r fun x hx => hpaths x (List.mem_cons_of_mem _ hx)
    cases hstep : r.enter s t source with
    | ok next =>
      simp only [Roster.enterAll, hstep]
      exact hrest next
    | error e =>
      have hpromised := enter_promised (hpaths source List.mem_cons_self) hstep
      simp only [Roster.enterAll, hstep, hslow, Bool.false_eq_true, if_false]
      exact (isPromised_singleton hpromised).append (hrest r)

/-! ## Candidates -/

/-- What is wrong with a candidate is wrong with its annotations, or a reference leads nowhere, or
XML forbids one of its texts; all of this is meant for the log. -/
theorem mapCandidate_promised {e : MappingError} (h : (mapCandidate s r c).outcome = .error e) :
    (BatchError.mapping e).isPromised = true := by
  simp only [mapCandidate, Report.bind_def, Report.outcome_andThen, Report.liftM_def,
    Report.outcome_ofExcept, bind_eq_error] at h
  -- the three steps of mapping: the class itself, its references, its document
  rcases h with hmapped | ⟨mapped, hmapped, hresolved | ⟨resolved, hresolved, h⟩⟩
  · exact ofDescriptor_blames.isPromised hmapped
  · obtain ⟨property, target, rfl⟩ := Roster.unknownEntity_of_resolve hresolved
    rfl
  · rcases h with hdocument | ⟨document, -, hpure⟩
    · obtain ⟨fault, hfailed, rfl⟩ := mapError_eq_error.mp hdocument
      -- an identifier is there where it is looked for
      have hne : resolved.document s.quoteIdentifiers ≠ .error .missingIdentifier :=
        MappedEntity.document_ne_missingIdentifier
          (MappedEntity.sound_of_yields ⟨mapped, hmapped, Or.inr ⟨r, hresolved⟩⟩).identified
      cases fault with
      | missingIdentifier => exact absurd hfailed hne
      | _ => rfl
    · cases hpure

/-- XML allows the entity name of a document that can be rendered. -/
theorem isXmlText_of_rendering? (hw : rendering? s r c = some w) :
    isXmlText w.entity.entityName = true := by
  obtain ⟨-, h⟩ := rendering?_eq_some_iff.mp hw
  simp only [mapCandidate, Report.bind_def, Report.outcome_andThen_eq_ok, Report.liftM_def,
    Report.outcome_ofExcept] at h
  obtain ⟨mapped, -, resolved, -, document, hdocument, hpair⟩ := h
  cases hpair
  unfold buildDocument at hdocument
  cases hbuilt : w.entity.document s.quoteIdentifiers with
  | error fault =>
    rw [hbuilt] at hdocument
    cases hdocument
  | ok d => exact MappedEntity.isXmlText_of_document hbuilt

/-- The directory of a document has no null character in its path when neither the one that is set
nor the source has one. -/
theorem nullFree_outputDirectory {path : Path}
    (hdirectory : ∀ directory ∈ s.outputDir, directory.NullFree) (hpath : path.NullFree) :
    (s.outputDirectory path).NullFree := by
  unfold Settings.outputDirectory
  split
  · exact hpath.parent
  · cases houtput : s.outputDir with
    | none =>
      have hname : ({ parts := ["orm_mappings"] } : Path).NullFree := by decide
      exact s.temporary.nullFree.join hname
    | some directory => exact hdirectory directory houtput

/-- Writing a document never fails for a null character, so its error is always told as one of
writing. -/
theorem write_fault_ne {e : FileError}
    (hdirectory : ∀ directory ∈ s.outputDir, directory.NullFree)
    (hpath : w.candidate.source.path.NullFree) (hname : isXmlText w.entity.entityName = true)
    (hfailed : (w.write s t).error? = some e) : e.fault ≠ .nullCharacter := by
  have houtput := nullFree_outputDirectory hdirectory hpath
  have hending : (Path.ofString (w.entity.entityName ++ documentSuffix)).NullFree := by
    refine Path.nullFree_ofString ?_
    rw [String.toList_append, List.mem_append, not_or]
    exact ⟨not_mem_of_isXmlText hname, by decide⟩
  exact FileTree.writeIn_fault_ne houtput (houtput.join hending) hfailed

/-- The run lemma: the errors in the log are meant for it, and a run that does not return ends with
a document that cannot be written. -/
theorem runAll_ending (hslow : s.failFast = false)
    (hdirectory : ∀ directory ∈ s.outputDir, directory.NullFree)
    (hcs : ∀ c ∈ cs, c.source.path.NullFree) :
    IsPromised (runAll s r t cs).log ∧
      ∀ e, (runAll s r t cs).outcome = .error e →
        ∃ entity path fault, e = .write entity path fault := by
  induction cs generalizing t with
  | nil =>
    refine ⟨isPromised_nil, fun e h => ?_⟩
    cases h
  | cons c rest ih =>
    have hrest := fun t => ih (t := t) fun x hx => hcs x (List.mem_cons_of_mem c hx)
    rcases attempt_cases s r t c with
      ⟨w, -, -, hattempt⟩ | ⟨w, fault, hw, hfault, hattempt⟩ | ⟨e, hfailed, -, hattempt⟩ |
      ⟨e, -, hfast, -⟩
    · obtain ⟨hlog, hend⟩ := hrest (w.write s t).tree
      simp only [runAll, hattempt]
      refine ⟨(isPromised_warnings s r c).append hlog, fun e h => ?_⟩
      exact hend e (map_eq_error.mp h)
    · -- the batch ends with the error of the system, as one that is meant for it
      obtain ⟨rfl, -⟩ := rendering?_eq_some_iff.mp hw
      have hne := write_fault_ne hdirectory (hcs _ List.mem_cons_self)
        (isXmlText_of_rendering? hw) hfault
      simp only [runAll, hattempt]
      refine ⟨isPromised_warnings s r _, fun e h => ?_⟩
      cases h
      rw [Rendering.writeError, if_neg (by simpa using hne)]
      exact ⟨_, _, _, rfl⟩
    · obtain ⟨hlog, hend⟩ := hrest t
      simp only [runAll, hattempt]
      have hskipped : IsPromised [.skipped c.entityName (.mapping e)] :=
        isPromised_singleton (mapCandidate_promised hfailed)
      exact ⟨((isPromised_warnings s r c).append hskipped).append hlog, hend⟩
    · rw [hslow] at hfast
      cases hfast

/-! ## Whole batches -/

/-- A search path that is too long ends discovery before it has begun, with nothing in the log. -/
theorem discover_of_overlong (h : ∃ root ∈ s.searchPaths, ∃ fault, Overlong t root fault) :
    ∃ root ∈ s.searchPaths, ∃ fault, Overlong t root fault ∧
      (fault.path.TooLong ∨ ¬ fault.path.NullFree) ∧
      discover s t = ⟨[], .error (.unusablePath fault)⟩ := by
  obtain ⟨fault, hfailed⟩ : ∃ fault, Source.discover t s.searchPaths s.suffixes = .error fault :=
    Source.discover_eq_error_iff.mpr h
  obtain ⟨root, hroot, hlong⟩ := Source.discover_eq_error hfailed
  exact ⟨root, hroot, fault, hlong, hlong.path, by simp only [discover, hfailed]⟩

/-- The batch ends with it and leaves the files as they are. -/
theorem generate_of_overlong (h : ∃ root ∈ s.searchPaths, ∃ fault, Overlong t root fault) :
    ∃ root ∈ s.searchPaths, ∃ fault, Overlong t root fault ∧
      (fault.path.TooLong ∨ ¬ fault.path.NullFree) ∧
      generate s t = ⟨[], t, .error (.unusablePath fault)⟩ := by
  obtain ⟨root, hroot, fault, hlong, hpath, hdiscover⟩ := discover_of_overlong h
  exact ⟨root, hroot, fault, hlong, hpath, by simp only [generate, hdiscover]⟩

/-- When no search path is too long, the search succeeds. -/
theorem exists_discover_eq_ok
    (h : ∀ root ∈ s.searchPaths, ∀ fault, ¬ Overlong t root fault) :
    ∃ sources, Source.discover t s.searchPaths s.suffixes = .ok sources := by
  cases hsources : Source.discover t s.searchPaths s.suffixes with
  | ok sources => exact ⟨sources, rfl⟩
  | error fault =>
    obtain ⟨root, hroot, hlong⟩ := Source.discover_eq_error hsources
    exact absurd hlong (h root hroot fault)

/-- When no search path is too long, discovery comes to its end, and the paths of what it has found
have no null characters. -/
theorem discover_ending (hslow : s.failFast = false)
    (hfits : ∀ root ∈ s.searchPaths, ∀ fault, ¬ Overlong t root fault) :
    IsPromised (discover s t).log ∧
      ∃ r, (discover s t).outcome = .ok r ∧ ∀ c ∈ r.candidates, c.source.path.NullFree := by
  obtain ⟨sources, hsources⟩ := exists_discover_eq_ok hfits
  have hpaths : ∀ source ∈ sources, FileTree.pathFault? source.path = none :=
    fun source hsource => Source.pathFault?_of_discover hsources hsource
  obtain ⟨r, hr⟩ := exists_enterAll_eq_ok hslow t {} sources
  rw [discover_eq_enterAll hsources]
  refine ⟨enterAll_ending hslow t {} hpaths, r, hr, ?_⟩
  rw [← discover_eq_enterAll hsources] at hr
  obtain ⟨others, hothers, -, hcollects⟩ := discover_eq_ok hr
  rw [hsources] at hothers
  cases hothers
  intro c hc
  have hmem := hcollects.order.subset (List.mem_map_of_mem hc)
  exact FileTree.nullFree_of_pathFault? (hpaths _ (List.mem_filter.mp hmem).1)

/-- A batch that goes on after errors, whose directory for documents has no null character in its
path. Whatever the files, every error that it logs is of a kind that is meant for descriptors. It
returns, or a document cannot be written, exactly when no search path is too long; and when one is
too long it ends with the error of the system for that path and does nothing. -/
theorem generate_ending (s : Settings) (t : FileTree) (hslow : s.failFast = false)
    (hdirectory : ∀ directory ∈ s.outputDir, directory.NullFree) :
    (∀ label e, .skipped label e ∈ (generate s t).log → e.isPromised = true) ∧
    (((∃ records, (generate s t).outcome = .ok records) ∨
        ∃ entity path fault, (generate s t).outcome = .error (.write entity path fault)) ↔
      ∀ root ∈ s.searchPaths, ∀ fault, ¬ Overlong t root fault) ∧
    ((∃ root ∈ s.searchPaths, ∃ fault, Overlong t root fault) →
      ∃ root ∈ s.searchPaths, ∃ fault, Overlong t root fault ∧
        (fault.path.TooLong ∨ ¬ fault.path.NullFree) ∧
        generate s t = ⟨[], t, .error (.unusablePath fault)⟩) := by
  -- a search path that is too long ends the batch before anything else is done
  by_cases hlong : ∃ root ∈ s.searchPaths, ∃ fault, Overlong t root fault
  · obtain ⟨root, hroot, fault, hroots, -, hgenerate⟩ := generate_of_overlong hlong
    refine ⟨?_, ⟨?_, fun h => absurd hroots (h root hroot fault)⟩,
      fun _ => generate_of_overlong hlong⟩
    · rw [hgenerate]
      exact isPromised_nil
    · rw [hgenerate]
      rintro (⟨records, h⟩ | ⟨entity, path, fault, h⟩)
      · cases h
      · cases h
  · have hfits : ∀ root ∈ s.searchPaths, ∀ fault, ¬ Overlong t root fault :=
      fun root hroot fault h => hlong ⟨root, hroot, fault, h⟩
    obtain ⟨hlog, r, hr, hcs⟩ := discover_ending hslow hfits
    obtain ⟨hrun, hend⟩ := runAll_ending (t := t) (r := r) hslow hdirectory hcs
    have hgenerate := generate_eq_runAll hr
    refine ⟨?_, ⟨fun _ => hfits, fun _ => ?_⟩, fun h => absurd h hlong⟩
    · rw [hgenerate]
      exact hlog.append hrun
    · rw [hgenerate]
      cases houtcome : (runAll s r t r.candidates).outcome with
      | ok records => exact Or.inl ⟨records, rfl⟩
      | error e =>
        obtain ⟨entity, path, fault, rfl⟩ := hend e houtcome
        exact Or.inr ⟨entity, path, fault, rfl⟩

/-- In the garage with all that can be wrong with a class, the batch returns. -/
theorem generate_ending_mixedGarage :
    mixedSettings.failFast = false ∧
      (∀ directory ∈ mixedSettings.outputDir, directory.NullFree) ∧
      (∀ label e, .skipped label e ∈ (generate mixedSettings mixedGarage).log →
        e.isPromised = true) ∧
      ∀ root ∈ mixedSettings.searchPaths, ∀ fault, ¬ Overlong mixedGarage root fault := by
  have hslow : mixedSettings.failFast = false := rfl
  have hdirectory : ∀ directory ∈ mixedSettings.outputDir, directory.NullFree := by
    intro directory h
    cases h
    decide
  obtain ⟨hlog, hends, -⟩ := generate_ending mixedSettings mixedGarage hslow hdirectory
  have hok := eq_ok_of_toOption generate_mixedGarage.1
  exact ⟨hslow, hdirectory, hlog, hends.mp (Or.inl ⟨_, hok⟩)⟩

/-- A name that is one byte too long. -/
def longName : String :=
  String.ofList (List.replicate (FileTree.maxNameLength + 1) 'x')

/-- The name has one byte more than a name may have. -/
theorem utf8ByteSize_longName : longName.utf8ByteSize = FileTree.maxNameLength + 1 := by
  have hreplicate : ∀ n, (String.ofList (List.replicate n 'x')).utf8ByteSize = n := by
    intro n
    induction n with
    | zero => rfl
    | succ n ih =>
      rw [List.replicate_succ, String.ofList_cons, String.utf8ByteSize_append, ih,
        String.utf8ByteSize_singleton, Nat.add_comm]
      rfl
  exact hreplicate _

/-- `longName` is longer than the system lets the name of a file be. -/
theorem long_longName : FileTree.maxNameLength < longName.utf8ByteSize := by
  rw [utf8ByteSize_longName]
  exact Nat.lt_succ_self _

/-- `longName` has no null character, so its length is its only fault. -/
theorem nullFree_longName : '\x00' ∉ longName.toList := by
  rw [longName, String.toList_ofList]
  simp [List.mem_replicate]

/-- Settings that search for that name. -/
def longSettings : Settings where
  searchPaths := [{ parts := [longName] }]
  failFast := false

/-- A search path of that name is too long, even where there are no files at all. -/
theorem overlong_longName :
    Overlong {} { parts := [longName] } ⟨.nameTooLong, { parts := [longName] }⟩ := by
  have hwalk : ({} : FileTree).walk [] [] = .ok [] := rfl
  have hfree : Path.NullFree { parts := [longName] } :=
    List.forall_mem_singleton.mpr nullFree_longName
  exact .itself (FileTree.locate_of_longName hfree rfl hwalk rfl long_longName)

/-- Such a batch neither returns, nor is there a document that cannot be written. -/
theorem generate_overlong :
    ¬ ∀ (s : Settings) (t : FileTree), s.failFast = false →
      (∀ path ∈ s.searchPaths, path.NullFree) → (∀ directory ∈ s.outputDir, directory.NullFree) →
      (∃ records, (generate s t).outcome = .ok records) ∨
        ∃ entity path fault, (generate s t).outcome = .error (.write entity path fault) := by
  intro h
  have hsearch : ∀ path ∈ longSettings.searchPaths, path.NullFree :=
    List.forall_mem_singleton.mpr (List.forall_mem_singleton.mpr nullFree_longName)
  have houtput : ∀ directory ∈ longSettings.outputDir, directory.NullFree := by
    intro directory hnone
    cases hnone
  have hroot : { parts := [longName] } ∈ longSettings.searchPaths := List.mem_singleton_self _
  obtain ⟨root, -, fault, -, -, hgenerate⟩ :=
    generate_of_overlong ⟨_, hroot, _, overlong_longName⟩
  have hends := h longSettings {} rfl hsearch houtput
  rw [hgenerate] at hends
  rcases hends with ⟨records, hok⟩ | ⟨entity, path, fault, hwrite⟩
  · cases hok
  · cases hwrite

end OrmMapping
