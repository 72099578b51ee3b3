import OrmMapping.Proofs.Batch.Endings
import OrmMapping.Proofs.Batch.Places
import OrmMapping.Proofs.Batch.Rediscovery

/-!
# Running a batch again

A batch that has returned can be run again over the files that it left. It then finds the same
sources, although directories and documents were added below its search paths, writes the same
documents to the files that hold them already, and so changes nothing.

* `Lands.adds`: what writing documents adds to the files;
* `IsReady`, `isReady_of_lands`: files in which the documents have their places;
* `lookup?_writeAll`: writing documents once more;
* `runAll_again`: the candidates once more;
* `discover_of_adds`: discovery once more;
* `generate_again`: the whole batch once more;
* `generate_not_again`: a search path that only then leads to something.
-/

namespace OrmMapping

variable {s : Settings} {r : Roster} {t t' u : FileTree} {c : Candidate} {cs : List Candidate}
  {w : Rendering} {ws : List Rendering} {place : Place} {sources : List Source}

/-! ## What is added -/

/-- Where the path of a document leads, the place ends with the name of a document. `target` does
not need the file to be there. -/
theorem isDocumentPlace_of_target {source : Path} {name : String}
    (h : t.target (s.documentPath source name) = .ok place) : IsDocumentPlace place := by
  obtain ⟨anchor, above, stem, -, hpath⟩ := exists_documentPath_eq s source name
  have hup := documentName_ne_up stem
  rw [hpath] at h
  unfold FileTree.target at h
  simp only [List.getLast?_concat, List.dropLast_concat] at h
  split at h
  · cases h
  · next heq => cases heq
  · next last _ heq =>
    cases heq
    split at h
    · cases h
    · next parent _ =>
      rw [FileTree.step_eq_ok_iff (FileTree.directory_of_step h), if_neg (by simpa using hup)] at h
      exact ⟨parent, stem, h.2⟩

/-- Writing a document adds it and the directories above it, and nothing else. -/
theorem write_adds (w : Rendering) (s : Settings) (t : FileTree) :
    t.Adds IsDocumentPlace (w.write s t).tree :=
  FileTree.writeIn_adds t _ _ _ fun _ _ h => isDocumentPlace_of_target h

/-- Writing documents adds them and the directories above them. -/
theorem Lands.adds (h : Lands s t ws) : t.Adds IsDocumentPlace (Rendering.writeAll s t ws) := by
  induction h with
  | nil t => exact .refl _ t
  | cons _ _ ih => exact (write_adds _ s _).trans ih

/-! ## Writing once more -/

/-- Files in which some documents have their places: their directories are there, and so are they,
with whatever content. -/
def IsReady (s : Settings) (t : FileTree) (ws : List Rendering) : Prop :=
  ∀ w ∈ ws, t.isDirectory (s.outputDirectory w.candidate.source.path) = true ∧
    ∃ place content, t.locate (w.record s).documentPath = .ok place ∧
      t.lookup? place = some (.file content)

/-- Files that are ready stay so as others are added. -/
theorem IsReady.of_grows (hgrows : t.Grows t') (h : IsReady s t ws) : IsReady s t' ws := by
  intro w hw
  obtain ⟨hdirectory, place, content, hlocate, hfile⟩ := h w hw
  obtain ⟨content', hfile'⟩ := hgrows.file place content hfile
  exact ⟨FileTree.isDirectory_of_grows hgrows hdirectory, place, content',
    hgrows.locate hlocate, hfile'⟩

/-- Once documents were written in turn (`h`), the files are ready for them: their directories were
made, and they have their places. -/
theorem isReady_of_lands (h : Lands s t ws) : IsReady s (Rendering.writeAll s t ws) ws := by
  induction h with
  | nil t =>
    intro w hw
    cases hw
  | @cons t w ws free rest ih =>
    have hgrows : (w.write s t).tree.Grows (Rendering.writeAll s (w.write s t).tree ws) :=
      rest.adds.grows
    refine List.forall_mem_cons.mpr ⟨?_, ih⟩
    -- they were written, and nothing is taken away afterwards
    obtain ⟨place, hwrote⟩ := FileTree.writeIn_wrote free
    obtain ⟨hmade, hwrite⟩ := FileTree.writeIn_eq_ok free
    obtain ⟨other, hlater⟩ := FileTree.write_wrote hwrite
    have hdirectory := FileTree.isDirectory_of_grows hlater.grows
      (FileTree.isDirectory_of_makeDirectories hmade)
    have hready : IsReady s (w.write s t).tree [w] :=
      List.forall_mem_singleton.mpr ⟨hdirectory, place, _, hwrote.locate, hwrote.content⟩
    exact (hready.of_grows hgrows) w (List.mem_singleton_self w)

/-- Where its place is ready, a document is written without making a directory: the write puts its
content there and does not fail. -/
theorem write_again (h : IsReady s t (w :: ws)) :
    ∃ place content, t.locate (w.record s).documentPath = .ok place ∧
      t.lookup? place = some (.file content) ∧
      w.write s t = ⟨t.put place (.file w.document.bytes), none⟩ := by
  obtain ⟨hdirectory, place, content, hlocate, hfile⟩ := h w List.mem_cons_self
  exact ⟨place, content, hlocate, hfile, FileTree.writeIn_again hdirectory hlocate hfile⟩

/-- One document can be written without error, and the files stay ready for the others. -/
theorem IsReady.step (h : IsReady s t (w :: ws)) :
    (w.write s t).error? = none ∧ IsReady s (w.write s t).tree ws := by
  obtain ⟨place, content, -, -, hwrite⟩ := write_again h
  have hfree : (w.write s t).error? = none := by rw [hwrite]
  refine ⟨hfree, fun v hv => ?_⟩
  exact h.of_grows (write_adds w s t).grows v (List.mem_cons_of_mem w hv)

/-- Over files that are ready, the documents can be written in turn. -/
theorem lands_of_isReady (h : IsReady s t ws) : Lands s t ws := by
  induction ws generalizing t with
  | nil => exact .nil t
  | cons w ws ih =>
    obtain ⟨hfree, hrest⟩ := h.step
    exact .cons hfree (ih hrest)

/-- Writing changes nothing at a place where no document goes (`hnone`). -/
theorem lookup?_writeAll_of_forall (h : IsReady s t ws)
    (hnone : ∀ w ∈ ws, w.goesTo s t place = false) :
    (Rendering.writeAll s t ws).lookup? place = t.lookup? place := by
  induction ws generalizing t with
  | nil => rfl
  | cons w ws ih =>
    obtain ⟨own, content, hlocate, -, hwrite⟩ := write_again h
    obtain ⟨hfree, hready⟩ := h.step
    have hgrows := (write_adds w s t).grows
    -- the other documents keep their places, so none of them goes there either
    have hrest : ∀ v ∈ ws, v.goesTo s (w.write s t).tree place = false := by
      intro v hv
      obtain ⟨-, p, _, hp, -⟩ := h v (List.mem_cons_of_mem w hv)
      rw [goesTo_of_locate (hgrows.locate hp), ← goesTo_of_locate hp]
      exact hnone v (List.mem_cons_of_mem w hv)
    have hother : own ≠ place := by
      have hnot := hnone w List.mem_cons_self
      rw [goesTo_of_locate hlocate] at hnot
      simpa using hnot
    have hsame := ih hready hrest
    rw [hwrite] at hsame
    rw [Rendering.writeAll, List.foldl_cons, hwrite]
    exact hsame.trans (FileTree.lookup?_put_of_ne (Ne.symm hother) _)

/-- Documents written once more change nothing over files that hold them: a place that one of them
goes to holds the last of these before (`hholds`) and after. -/
theorem lookup?_writeAll (hready : IsReady s t ws) (hholds : Holds s t ws) (place : Place) :
    (Rendering.writeAll s t ws).lookup? place = t.lookup? place := by
  have hlands := lands_of_isReady hready
  cases hlast : lastAt s t place ws with
  | none =>
    refine lookup?_writeAll_of_forall hready fun w hw => ?_
    have hnot := List.find?_eq_none.mp hlast w (List.mem_reverse.mpr hw)
    simpa using hnot
  | some last =>
    -- writing them again makes the same document the last one
    have hafter := hlands.holds (holds_nil s t)
    rw [List.nil_append] at hafter
    have hsame : lastAt s (Rendering.writeAll s t ws) place ws = some last := by
      rw [lastAt_of_grows hlands.adds.grows hholds.located, hlast]
    rw [hafter.content place last hsame, hholds.content place last hlast]

/-! ## Candidates once more -/

/-- A candidate whose document can be written (`hfree`) has it written. -/
theorem attempt_of_written (hw : rendering? s r c = some w) (hfree : (w.write s t).error? = none) :
    attempt s r t c = (warnings s r c, .written (w.record s) (w.write s t).tree) := by
  rcases attempt_cases s r t c with
    ⟨v, hv, -, hattempt⟩ | ⟨v, e, hv, hfault, -⟩ | ⟨e, hfailed, -, -⟩ | ⟨e, hfailed, -, -⟩
  · rw [hw] at hv
    cases hv
    exact hattempt
  · rw [hw] at hv
    cases hv
    rw [hfree] at hfault
    cases hfault
  · rw [rendering?_eq_none_iff.mpr ⟨e, hfailed⟩] at hw
    cases hw
  · rw [rendering?_eq_none_iff.mpr ⟨e, hfailed⟩] at hw
    cases hw

/-- Whether a candidate is left out does not depend on the files: where it was (`h`), it is over any
others too. -/
theorem attempt_of_leftOut {e : MappingError} {log : List LogRecord}
    (h : attempt s r t c = (log, .leftOut e)) (u : FileTree) :
    attempt s r u c = (log, .leftOut e) := by
  unfold attempt writeDocument at h ⊢
  dsimp only at h ⊢
  split at h
  · split at h <;> cases h
  · split at h
    · cases h
    · next hslow =>
      rw [if_neg hslow]
      exact h

/-- Over files that are ready for its documents, a run that returned (`hok`) returns the same
records with the same log. By induction over the candidates: each of them is written or left out as
before. -/
theorem runAll_again {records : List EntityRecord}
    (hready : IsReady s u (cs.filterMap (rendering? s r)))
    (hok : (runAll s r t cs).outcome = .ok records) :
    (runAll s r u cs).outcome = .ok records ∧
      (runAll s r u cs).log = (runAll s r t cs).log := by
  induction cs generalizing t u records with
  | nil => exact ⟨hok, rfl⟩
  | cons c rest ih =>
    rcases attempt_cases s r t c with
      ⟨w, hw, -, hattempt⟩ | ⟨w, e, -, -, hattempt⟩ | ⟨e, hfailed, -, hattempt⟩ |
      ⟨e, -, -, hattempt⟩
    · -- a document that was written can be written again
      rw [List.filterMap_cons_some hw] at hready
      obtain ⟨hfree, hrest⟩ := hready.step
      simp only [runAll, hattempt] at hok
      obtain ⟨others, hothers, rfl⟩ := map_eq_ok.mp hok
      obtain ⟨houtcome, hlog⟩ := ih hrest hothers
      simp only [runAll, hattempt, attempt_of_written hw hfree, houtcome, hlog]
      exact ⟨rfl, trivial⟩
    · simp only [runAll, hattempt] at hok
      cases hok
    · -- a candidate that was left out is left out again
      rw [List.filterMap_cons_none (rendering?_eq_none_iff.mpr ⟨e, hfailed⟩)] at hready
      simp only [runAll, hattempt] at hok
      obtain ⟨houtcome, hlog⟩ := ih hready hok
      simp only [runAll, hattempt, attempt_of_leftOut hattempt u, houtcome, hlog]
      exact ⟨trivial, trivial⟩
    · simp only [runAll, hattempt] at hok
      cases hok

/-! ## Whole batches once more -/

/-- Discovery does the same over files in which its sources read the same (`hread`): it reads
nothing else of them. -/
theorem enterAll_of_read (hread : ∀ source ∈ sources, t'.read source.path = t.read source.path)
    (r : Roster) : Roster.enterAll s t' r sources = Roster.enterAll s t r sources := by
  induction sources generalizing r with
  | nil => rfl
  | cons source rest ih =>
    have hstep : r.enter s t' source = r.enter s t source := by
      simp only [Roster.enter, Descriptor.load, hread source List.mem_cons_self]
    have hrest := ih fun x hx => hread x (List.mem_cons_of_mem _ hx)
    simp only [Roster.enterAll, hstep, hrest]

/-- Discovery among the documents that were added does what it did before, as long as no search path
is too long now (`hfits`). -/
theorem discover_of_adds (hsound : t.isSound = true) (hadds : t.Adds IsDocumentPlace u)
    (hxml : ".xml" ∉ s.suffixes.map Text.lower)
    (hup : ∀ root ∈ s.searchPaths, FileTree.up ∉ root.parts)
    (hsources : Source.discover t s.searchPaths s.suffixes = .ok sources)
    (hfits : ∀ root ∈ s.searchPaths, ∀ fault, ¬ Overlong u root fault) :
    discover s u = discover s t := by
  obtain ⟨sources', hsources'⟩ := exists_discover_eq_ok hfits
  have hsame : sources' = sources := Source.discover_again hsound hadds hxml hup hsources hsources'
  rw [hsame] at hsources'
  rw [discover_eq_enterAll hsources', discover_eq_enterAll hsources]
  -- the sources hold the same
  exact enterAll_of_read
    (fun source hsource => Source.read_again hsound hadds hxml hup hsources hsource) {}

/-- A batch that returns writes its documents and does nothing else to the files. -/
theorem lands_of_generate {records : List EntityRecord}
    (hok : (generate s t).outcome = .ok records) :
    Lands s t (renderings s t) ∧
      (generate s t).tree = Rendering.writeAll s t (renderings s t) := by
  obtain ⟨r, -, hrenderings, hrun⟩ := generate_completes hok
  constructor
  · rw [← written_eq_renderings hok]
    exact lands_written s t
  · rw [hrenderings]
    exact hrun.tree

/-- A batch that returns adds its documents and the directories above them, and nothing else. -/
theorem adds_of_generate {records : List EntityRecord}
    (hok : (generate s t).outcome = .ok records) :
    t.Adds IsDocumentPlace (generate s t).tree := by
  obtain ⟨hlands, hleft⟩ := lands_of_generate hok
  rw [hleft]
  exact hlands.adds

/-- Take files as a system keeps them, and settings that do not search for files with the suffix of
documents and have no step up in a search path. When a batch returns, a second one over the files
that it left returns the same records, logs the same and changes no file, wherever the documents
go, exactly when no search path is too long now. When one is, the second batch ends with the error
of the system for that path and does nothing. -/
theorem generate_again (s : Settings) (t : FileTree) (records : List EntityRecord)
    (hsound : t.isSound = true) (hxml : ".xml" ∉ s.suffixes.map Text.lower)
    (hup : ∀ root ∈ s.searchPaths, FileTree.up ∉ root.parts)
    (hok : (generate s t).outcome = .ok records) :
    let left := (generate s t).tree
    let again := generate s left
    ((again.outcome = .ok records ∧ again.log = (generate s t).log ∧
        ∀ place, again.tree.lookup? place = left.lookup? place) ↔
      ∀ root ∈ s.searchPaths, ∀ fault, ¬ Overlong left root fault) ∧
    ((∃ root ∈ s.searchPaths, ∃ fault, Overlong left root fault) →
      ∃ root ∈ s.searchPaths, ∃ fault, Overlong left root fault ∧
        (fault.path.TooLong ∨ ¬ fault.path.NullFree) ∧
        again = ⟨[], left, .error (.unusablePath fault)⟩) := by
  intro left again
  by_cases hlong : ∃ root ∈ s.searchPaths, ∃ fault, Overlong left root fault
  · refine ⟨⟨?_, fun h => ?_⟩, fun _ => generate_of_overlong hlong⟩
    · -- a path that is too long keeps the second batch from returning
      rintro ⟨houtcome, -, -⟩
      obtain ⟨root, -, fault, -, -, hagain⟩ := generate_of_overlong hlong
      rw [show again = _ from hagain] at houtcome
      cases houtcome
    · obtain ⟨root, hroot, fault, hroots⟩ := hlong
      exact absurd hroots (h root hroot fault)
  · have hfits : ∀ root ∈ s.searchPaths, ∀ fault, ¬ Overlong left root fault :=
      fun root hroot fault h => hlong ⟨root, hroot, fault, h⟩
    refine ⟨⟨fun _ => hfits, fun _ => ?_⟩, fun h => absurd h hlong⟩
    obtain ⟨r, hr, hrenderings, -⟩ := generate_completes hok
    obtain ⟨sources, hsources, -, -⟩ := discover_eq_ok hr
    obtain ⟨hlands, hleft⟩ := lands_of_generate hok
    have hadds : t.Adds IsDocumentPlace left := adds_of_generate hok
    have hready : IsReady s left (renderings s t) := by
      rw [show left = _ from hleft]
      exact isReady_of_lands hlands
    have hholds : Holds s left (renderings s t) := holds_renderings hok
    have hdiscover : discover s left = discover s t :=
      discover_of_adds hsound hadds hxml hup hsources hfits
    have hr' : (discover s left).outcome = .ok r := by rw [hdiscover, hr]
    -- the second batch makes the same of the same candidates
    have hfirst := generate_eq_runAll hr
    have hsecond : again = _ := generate_eq_runAll hr'
    rw [hfirst] at hok
    rw [hrenderings] at hready hholds
    obtain ⟨houtcome, hlog⟩ := runAll_again hready hok
    rw [hsecond, hfirst, hdiscover]
    refine ⟨houtcome, by simp only [hlog], fun place => ?_⟩
    have htree := (runAll_completes houtcome).tree
    simp only [htree]
    exact lookup?_writeAll hready hholds place

/-- A directory with one class. -/
def showroom : FileTree where
  entries := [
    (["models"], .directory),
    (["models", "Car.json"], textFile numberedCar)]

/-- Settings that search there and in the directory of the documents. -/
def showroomSettings : Settings where
  searchPaths := [{ parts := ["models"] }, { parts := ["out"] }]
  outputDir := some { parts := ["out"] }

/-- The record of the class. -/
def showroomRecord : EntityRecord where
  entityName := "Car"
  qualifiedName := "Car"
  sourcePath := { parts := ["models", "Car.json"] }
  documentPath := { parts := ["out", "Car.hbm.xml"] }

/-- The batch returns its record, makes the directory of the documents, and can be followed by
another search. -/
theorem generate_showroom :
    (generate showroomSettings showroom).outcome.toOption = some [showroomRecord] ∧
      (Source.discover (generate showroomSettings showroom).tree showroomSettings.searchPaths
        showroomSettings.suffixes).toOption.isSome = true ∧
      (generate showroomSettings showroom).tree.lookup? ["out"] = some .directory := by
  decide +kernel

/-- The directory of the documents is searched only when it is there, and then nothing is found. -/
theorem generate_again_showroom :
    showroom.isSound = true ∧ ".xml" ∉ showroomSettings.suffixes.map Text.lower ∧
      (∀ root ∈ showroomSettings.searchPaths, FileTree.up ∉ root.parts) ∧
      (generate showroomSettings showroom).outcome = .ok [showroomRecord] ∧
      (generate showroomSettings (generate showroomSettings showroom).tree).outcome =
        .ok [showroomRecord] := by
  have hsound : showroom.isSound = true := by decide +kernel
  have hxml : ".xml" ∉ showroomSettings.suffixes.map Text.lower := by decide
  have hup : ∀ root ∈ showroomSettings.searchPaths, FileTree.up ∉ root.parts := by decide
  obtain ⟨hrecord, hdiscover, -⟩ := generate_showroom
  have hok := eq_ok_of_toOption hrecord
  obtain ⟨sources, hsources⟩ := Option.isSome_iff_exists.mp hdiscover
  have hfits : ∀ root ∈ showroomSettings.searchPaths, ∀ fault,
      ¬ Overlong (generate showroomSettings showroom).tree root fault := by
    intro root hroot fault hlong
    obtain ⟨e, hfailed⟩ := Source.discover_eq_error_iff.mpr ⟨root, hroot, fault, hlong⟩
    rw [eq_ok_of_toOption hsources] at hfailed
    cases hfailed
  obtain ⟨hsame, -⟩ := generate_again _ _ _ hsound hxml hup hok
  exact ⟨hsound, hxml, hup, hok, (hsame.mpr hfits).1⟩

/-- A further search path that leads nowhere does not count. -/
theorem generate_concat_of_missing {root : Path} {records : List EntityRecord}
    (hmissing : t.locate root = .error .missing) (hok : (generate s t).outcome = .ok records) :
    generate (s.searching (s.searchPaths ++ [root]) s.suffixes) t = generate s t := by
  obtain ⟨r, hr, -⟩ := generate_completes hok
  obtain ⟨sources, hsources, -⟩ := discover_eq_ok hr
  have hmore : Source.discover t (s.searchPaths ++ [root]) s.suffixes = .ok sources := by
    rw [Source.discover_concat_of_missing hmissing, hsources]
  rw [generate_eq_generateFrom hsources,
    generate_eq_generateFrom (s := s.searching (s.searchPaths ++ [root]) s.suffixes) hmore,
    generateFrom_searching]

/-- A search path to a name that is too long, in the directory of the documents. -/
def longBelowOut : Path where
  parts := ["out", longName]

/-- The path has no null character, so the length of its name is its only fault. -/
theorem nullFree_longBelowOut : longBelowOut.NullFree := by
  refine List.forall_mem_cons.mpr ⟨by decide, List.forall_mem_singleton.mpr nullFree_longName⟩

/-- While that directory is missing, the path leads nowhere. -/
theorem locate_longBelowOut : showroom.locate longBelowOut = .error .missing := by
  have htext : longBelowOut.text = "out/" ++ longName := by
    have hwritten : Anchor.workingDirectory.text ++ Text.joinWith "/" ["out", longName] =
        "out/" ++ longName := by
      simp [Anchor.text, Text.joinWith]
    have hfull : ("out/" ++ longName).isEmpty = false := by
      simp
    unfold Path.text
    dsimp only [longBelowOut]
    rw [hwritten, hfull, if_neg Bool.false_ne_true]
  -- the path as a whole is not too long, only its last name is
  have hsize : ¬ FileTree.maxPathLength < longBelowOut.text.utf8ByteSize := by
    rw [htext, String.utf8ByteSize_append, utf8ByteSize_longName]
    decide
  have hout : showroom.lookup? ["out"] = none := by decide +kernel
  have hwalk : showroom.walk [] ["out", longName] = .error .missing := by
    have hfirst : showroom.step [] "out" = .ok ["out"] := by decide +kernel
    have hsecond : showroom.step ["out"] longName = .error .missing := by
      simp only [FileTree.step, hout]
    simp only [FileTree.walk, hfirst, hsecond]
  unfold FileTree.locate
  rw [FileTree.pathFault?_of_nullFree nullFree_longBelowOut, if_neg hsize]
  exact hwalk

/-- Once it is there, the path is too long. -/
theorem overlong_longBelowOut (hgrows : showroom.Grows t)
    (hout : t.lookup? ["out"] = some .directory) :
    Overlong t longBelowOut ⟨.nameTooLong, longBelowOut⟩ := by
  have hfirst : showroom.step [] "out" = .ok ["out"] := by decide +kernel
  have hstart : t.start longBelowOut = [] := hgrows.start longBelowOut
  have hwalk : t.walk (t.start longBelowOut) ["out"] = .ok ["out"] := by
    simp only [hstart, FileTree.walk, hgrows.step hfirst, hout, Option.isSome_some, if_true]
  have hparts : longBelowOut.parts = ["out"] ++ [longName] := rfl
  exact .itself (FileTree.locate_of_longName nullFree_longBelowOut hparts hwalk hout long_longName)

/-- The first batch makes the directory, and the second one fails for the path. -/
theorem generate_not_again :
    ¬ ∀ (s : Settings) (t : FileTree) (records : List EntityRecord), t.isSound = true →
      ".xml" ∉ s.suffixes.map Text.lower → (∀ root ∈ s.searchPaths, FileTree.up ∉ root.parts) →
      (∀ directory ∈ s.outputDir, FileTree.up ∉ directory.parts) →
      (generate s t).outcome = .ok records →
      (generate s (generate s t).tree).outcome = .ok records := by
  intro h
  let more := showroomSettings.searching (showroomSettings.searchPaths ++ [longBelowOut])
    showroomSettings.suffixes
  have hup : ∀ root ∈ more.searchPaths, FileTree.up ∉ root.parts := by
    have hlong : FileTree.up ∉ ["out", longName] := by
      rw [List.mem_cons, List.mem_singleton, not_or]
      exact ⟨by decide, (FileTree.ne_up_of_long long_longName).symm⟩
    exact List.forall_mem_append.mpr ⟨by decide, List.forall_mem_singleton.mpr hlong⟩
  have houtput : ∀ directory ∈ more.outputDir, FileTree.up ∉ directory.parts := by
    decide
  obtain ⟨hrecord, -, hout⟩ := generate_showroom
  have hok := eq_ok_of_toOption hrecord
  have hfirst : generate more showroom = generate showroomSettings showroom :=
    generate_concat_of_missing locate_longBelowOut hok
  have hsecond := h more showroom [showroomRecord] (by decide +kernel) (by decide) hup houtput
  rw [hfirst] at hsecond
  have hroot : longBelowOut ∈ more.searchPaths :=
    List.mem_append_right _ (List.mem_singleton_self _)
  have hgrows : showroom.Grows (generate showroomSettings showroom).tree :=
    (adds_of_generate hok).grows
  obtain ⟨root, -, fault, -, -, hagain⟩ :=
    generate_of_overlong ⟨longBelowOut, hroot, _, overlong_longBelowOut hgrows hout⟩
  have hcontradiction := hsecond hok
  rw [hagain] at hcontradiction
  cases hcontradiction

end OrmMapping
