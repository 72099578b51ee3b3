import OrmMapping.Proofs.Batch.Changes
import OrmMapping.Proofs.Batch.Repetition
import OrmMapping.Proofs.Files.Regions

/-!
# Batches that keep to a directory

A batch whose documents all go to one directory changes nothing but what is below it, and makes the
directories on the way. What it does does not depend on anything else, as long as only documents are
added to the files: over files that are alike in its directory it takes the same steps, and leaves
them alike.

* `Settings.KeepsTo`: a batch whose documents all go to one directory;
* `discover_among`: discovery among the documents of others;
* `Batch.IsOf`, `Stays`, `next_stays`: what a step does to the files;
* `next_alike`: the same step over other files.
-/

namespace OrmMapping

/-! ## The directory of a batch -/

namespace Settings

/-- The directory that documents go to when they do not go beside their sources. -/
def directory (s : Settings) : Path :=
  s.outputDir.getD s.standardOutputDir

/-- Settings by which all documents go to one directory, and none of them is taken for a source. No
path has a step up, no entity name has a slash, and the directory has names that a directory can
have. -/
structure KeepsTo (s : Settings) (t : FileTree) : Prop where
  apart : s.beside = false
  suffixes : ".xml" ∉ s.suffixes.map Text.lower
  roots : ∀ root ∈ s.searchPaths, FileTree.up ∉ root.parts
  directory : ∀ name ∈ s.directory.parts, FileTree.IsPlain name
  names : ∀ r, (discover s t).outcome = .ok r → ∀ c ∈ r.candidates, '/' ∉ c.entityName.toList

/-- Whether no search path is too long for the system, nor anything found below one. -/
def Fits (s : Settings) (t : FileTree) : Prop :=
  ∀ root ∈ s.searchPaths, ∀ fault, ¬ Overlong t root fault

end Settings

/-- A sound tree that has grown from another by documents. -/
structure FileTree.HasDocuments (t u : FileTree) : Prop where
  sound : u.isSound = true
  adds : t.Adds IsDocumentPlace u

variable {s : Settings} {r : Roster} {t u v : FileTree} {w : Rendering} {cs : List Candidate}
  {b : Batch} {step : Step}

/-! ## Discovery -/

/-- A search path that is too long stays so when the files grow, so one that fits later fits
before. -/
theorem Settings.Fits.of_grows (h : s.Fits u) (hgrows : t.Grows u) : s.Fits t :=
  fun root hroot fault hlong => h root hroot fault (hlong.of_grows hgrows)

/-- Where discovery succeeds, no search path is too long. -/
theorem fits_of_discover (hr : (discover s t).outcome = .ok r) : s.Fits t := by
  obtain ⟨sources, hsources, -⟩ := discover_eq_ok hr
  intro root hroot fault hlong
  obtain ⟨e, hfailed⟩ := Source.discover_eq_error_iff.mpr ⟨root, hroot, fault, hlong⟩
  cases hsources.symm.trans hfailed

/-- Discovery among documents does what it does without them, unless a search path is too long. -/
theorem discover_among (hkeeps : s.KeepsTo t) (hsound : t.isSound = true)
    (hu : t.HasDocuments u) (hfits : s.Fits u) : discover s u = discover s t := by
  obtain ⟨sources, hsources⟩ := exists_discover_eq_ok (hfits.of_grows hu.adds.grows)
  exact discover_of_adds hsound hu.adds hkeeps.suffixes hkeeps.roots hsources hfits

/-! ## Documents -/

/-- A candidate of the roster that has a document has it among the documents of the batch. -/
theorem mem_renderings (hr : (discover s t).outcome = .ok r) (hmem : w.candidate ∈ r.candidates)
    (hw : rendering? s r w.candidate = some w) : w ∈ renderings s t := by
  rw [renderings, hr]
  exact mem_filterMap_rendering?.mpr ⟨hmem, hw⟩

/-- All documents go to `Settings.directory`, wherever their `source` is. -/
theorem outputDirectory_of_keepsTo (hkeeps : s.KeepsTo t) (source : Path) :
    s.outputDirectory source = s.directory := by
  rw [Settings.outputDirectory, hkeeps.apart, if_neg Bool.false_ne_true, Settings.directory]

/-- Every document is a file in the directory itself. -/
theorem documentPath_of_keepsTo (hkeeps : s.KeepsTo t) (hw : w ∈ renderings s t) :
    (w.record s).documentPath = ⟨s.directory.anchor,
      s.directory.parts ++ [w.entity.entityName ++ documentSuffix]⟩ := by
  cases hr : (discover s t).outcome with
  | error e =>
    rw [renderings, hr] at hw
    cases hw
  | ok r =>
    obtain ⟨sources, -, -, hcollects⟩ := discover_eq_ok hr
    rw [renderings, hr] at hw
    obtain ⟨hmem, hrendered⟩ := mem_filterMap_rendering?.mp hw
    have hname := (Rendering.identity_of_readFrom hrendered (hcollects.read _ hmem)).1
    have hslash : '/' ∉ w.entity.entityName.toList := by
      rw [hname]
      exact hkeeps.names r hr _ hmem
    have hpath := documentPath_of_not_mem s w.candidate.source.path hslash
    rw [outputDirectory_of_keepsTo hkeeps] at hpath
    exact hpath

/-- Writing a document writes a file of its name into `Settings.directory`. -/
theorem write_of_keepsTo (hkeeps : s.KeepsTo t) (hw : w ∈ renderings s t) (u : FileTree) :
    w.write s u = u.writeIn s.directory ⟨s.directory.anchor,
      s.directory.parts ++ [w.entity.entityName ++ documentSuffix]⟩ w.document.bytes := by
  rw [Rendering.write, documentPath_of_keepsTo hkeeps hw, outputDirectory_of_keepsTo hkeeps]

namespace FileTree.HasDocuments

/-- A sound tree has grown from itself by no documents. -/
theorem refl (hsound : t.isSound = true) : t.HasDocuments t :=
  ⟨hsound, .refl _ t⟩

/-- A path spells the same place in both trees. -/
theorem spelled (h : t.HasDocuments u) (path : Path) : u.spelled path = t.spelled path := by
  rw [FileTree.spelled, FileTree.spelled, h.adds.grows.start]

/-- Writing one document more, or failing on it, leaves a sound tree that has grown by documents. -/
theorem write (h : t.HasDocuments u) (w : Rendering) (s : Settings) :
    t.HasDocuments (w.write s u).tree :=
  ⟨isSound_of_writeIn h.sound _ _ _, h.adds.trans (write_adds w s u)⟩

end FileTree.HasDocuments

/-- Writing a document changes what is below the directory. -/
theorem write_inside (hkeeps : s.KeepsTo t) (hu : t.HasDocuments u) (hw : w ∈ renderings s t) :
    FileTree.Inside (t.spelled s.directory) u (w.write s u).tree := by
  rw [write_of_keepsTo hkeeps hw, ← hu.spelled]
  exact FileTree.writeIn_inside hu.sound hkeeps.directory (documentName_ne_up _) _

/-- A document that was written has its place in the directory. -/
theorem locate_of_write (hkeeps : s.KeepsTo t) (hu : t.HasDocuments u) (hw : w ∈ renderings s t)
    (hfree : (w.write s u).error? = none) :
    (w.write s u).tree.locate (w.record s).documentPath =
      .ok (t.spelled s.directory ++ [w.entity.entityName ++ documentSuffix]) := by
  obtain ⟨place, hwrote⟩ := FileTree.writeIn_wrote hfree
  have hlocate : (w.write s u).tree.locate (w.record s).documentPath = .ok place := hwrote.locate
  have hpath := documentPath_of_keepsTo hkeeps hw
  -- the path is spelled without steps up, so it leads where it spells
  have hup : FileTree.up ∉ (w.record s).documentPath.parts := by
    rw [hpath, List.mem_append, List.mem_singleton, not_or]
    exact ⟨fun hmem => (hkeeps.directory _ hmem).1 rfl, (documentName_ne_up _).symm⟩
  have hplace : place = (w.write s u).tree.spelled (w.record s).documentPath :=
    FileTree.eq_append_of_walk hup (FileTree.walk_of_locate hlocate)
  rw [hlocate, hplace, (hu.write w s).spelled, hpath, FileTree.spelled_concat]

/-- Writing a document ends in the same way over files that are alike in the directory, and leaves
them alike. -/
theorem write_alike (hkeeps : s.KeepsTo t) (hv : t.HasDocuments v) (hu : t.HasDocuments u)
    (h : FileTree.Alike (t.spelled s.directory) v u) (hw : w ∈ renderings s t) :
    (w.write s u).error? = (w.write s v).error? ∧
      FileTree.Alike (t.spelled s.directory) (w.write s v).tree (w.write s u).tree := by
  rw [write_of_keepsTo hkeeps hw, write_of_keepsTo hkeeps hw]
  exact h.writeIn hv.sound hu.sound hkeeps.directory (documentName_ne_up _) (hv.spelled _) _

/-! ## Steps -/

/-- A batch with some settings, on its way over files that have grown from some tree: what is left
of its candidates is among those of that tree. -/
structure Batch.IsOf (s : Settings) (t : FileTree) (b : Batch) : Prop where
  settings : b.settings = s
  candidates : ∀ r cs, b.stage = .running r cs →
    (discover s t).outcome = .ok r ∧ ∀ c ∈ cs, c ∈ r.candidates

/-- A batch that has not begun has no candidates yet. -/
theorem isOf_start (s : Settings) (t : FileTree) : Batch.IsOf s t { settings := s } :=
  ⟨rfl, fun _ _ hstage => by cases hstage⟩

/-- A batch that is over has no candidates left. -/
theorem isOf_finished (s : Settings) (t : FileTree) : Batch.IsOf s t ⟨s, .finished⟩ :=
  ⟨rfl, fun _ _ hstage => by cases hstage⟩

/-- What a step does in a batch that keeps to a directory: it changes what is below the directory,
and its document has its place there. -/
structure Stays (s : Settings) (t u : FileTree) (step : Step) : Prop where
  isOf : step.batch.IsOf s t
  begun : step.batch.stage ≠ .pending
  documents : t.HasDocuments step.tree
  inside : FileTree.Inside (t.spelled s.directory) u step.tree
  located : ∀ record, step.outcome = .ok (some record) →
    ∃ name, step.tree.locate record.documentPath = .ok (t.spelled s.directory ++ [name])

/-- A step that leaves the files as they are, and gives no record, stays in the directory. -/
theorem stays_of_tree (hu : t.HasDocuments u) (hisOf : step.batch.IsOf s t)
    (hbegun : step.batch.stage ≠ .pending) (htree : step.tree = u)
    (houtcome : ∀ record, step.outcome ≠ .ok (some record)) : Stays s t u step := by
  refine ⟨hisOf, hbegun, ?_, ?_, fun record hrecord => absurd hrecord (houtcome record)⟩
  · rw [htree]
    exact hu
  · rw [htree]
    exact .refl _ u

/-- A step that writes a document of the batch, or fails on writing it, stays in the directory. -/
theorem stays_of_write (hkeeps : s.KeepsTo t) (hu : t.HasDocuments u) (hw : w ∈ renderings s t)
    (hisOf : step.batch.IsOf s t) (hbegun : step.batch.stage ≠ .pending)
    (htree : step.tree = (w.write s u).tree)
    (hlocated : ∀ record, step.outcome = .ok (some record) →
      ∃ name, step.tree.locate record.documentPath = .ok (t.spelled s.directory ++ [name])) :
    Stays s t u step := by
  refine ⟨hisOf, hbegun, ?_, ?_, hlocated⟩
  · rw [htree]
    exact hu.write w s
  · rw [htree]
    exact write_inside hkeeps hu hw

/-- After a step among `cs` the batch is over, or it goes on with a part of `cs`. -/
theorem advance_batch (s : Settings) (r : Roster) (t : FileTree) (cs : List Candidate) :
    (Batch.advance s r t cs).batch = ⟨s, .finished⟩ ∨
      ∃ rest, (∀ c ∈ rest, c ∈ cs) ∧ (Batch.advance s r t cs).batch = ⟨s, .running r rest⟩ := by
  induction cs with
  | nil => exact Or.inl rfl
  | cons c rest ih =>
    unfold Batch.advance
    split
    · exact Or.inr ⟨rest, fun x hx => List.mem_cons_of_mem c hx, rfl⟩
    · exact Or.inl rfl
    · refine ih.imp_right ?_
      rintro ⟨others, hothers, hbatch⟩
      exact ⟨others, fun x hx => List.mem_cons_of_mem c (hothers x hx), hbatch⟩

/-- A step among candidates of the roster stays in the directory. -/
theorem advance_stays (hkeeps : s.KeepsTo t) (hu : t.HasDocuments u)
    (hr : (discover s t).outcome = .ok r) (hcs : ∀ c ∈ cs, c ∈ r.candidates) :
    Stays s t u (Batch.advance s r u cs) := by
  have hisOf : (Batch.advance s r u cs).batch.IsOf s t ∧
      (Batch.advance s r u cs).batch.stage ≠ .pending := by
    rcases advance_batch s r u cs with hbatch | ⟨rest, hrest, hbatch⟩
    · rw [hbatch]
      exact ⟨isOf_finished s t, fun hstage => by cases hstage⟩
    · rw [hbatch]
      refine ⟨⟨rfl, fun r' cs' hstage => ?_⟩, fun hstage => by cases hstage⟩
      cases hstage
      exact ⟨hr, fun c hc => hcs c (hrest c hc)⟩
  cases advance_leaves s r u cs with
  | wrote w mem rendered free outcome tree =>
    have hw := mem_renderings hr (hcs _ mem) rendered
    refine stays_of_write hkeeps hu hw hisOf.1 hisOf.2 tree fun record hrecord => ?_
    cases outcome.symm.trans hrecord
    exact ⟨_, by rw [tree]; exact locate_of_write hkeeps hu hw free⟩
  | nothing outcome tree => exact stays_of_tree hu hisOf.1 hisOf.2 tree outcome
  | blocked w e mem rendered fault outcome tree =>
    have hw := mem_renderings hr (hcs _ mem) rendered
    refine stays_of_write hkeeps hu hw hisOf.1 hisOf.2 tree fun record hrecord => ?_
    cases outcome.symm.trans hrecord

/-- The step lemma: a step at any stage changes what is below the directory of the batch and nothing
else but directories on the way to it. -/
theorem next_stays (hkeeps : s.KeepsTo t) (hsound : t.isSound = true) (hb : b.IsOf s t)
    (hu : t.HasDocuments u) : Stays s t u (b.next u) := by
  obtain ⟨settings, stage⟩ := b
  obtain rfl : settings = s := hb.settings
  cases stage with
  | finished =>
    exact stays_of_tree hu (isOf_finished _ t) (fun hstage => by cases hstage) rfl
      fun record hrecord => by cases hrecord
  | running r cs =>
    obtain ⟨hr, hcs⟩ := hb.candidates r cs rfl
    exact advance_stays hkeeps hu hr hcs
  | pending =>
    -- a batch that begins finds what it would have found before the documents, and goes on like one
    -- that is running
    cases hr : (discover settings u).outcome with
    | error e =>
      simp only [Batch.next, hr]
      exact stays_of_tree hu (isOf_finished _ t) (fun hstage => by cases hstage) rfl
        fun record hrecord => by cases hrecord
    | ok r =>
      have hsame := discover_among hkeeps hsound hu (fits_of_discover hr)
      have hstays := advance_stays hkeeps hu (hsame ▸ hr) fun c hc => hc
      simp only [Batch.next, hr]
      exact ⟨hstays.isOf, hstays.begun, hstays.documents, hstays.inside, hstays.located⟩

/-! ## The same step over other files -/

/-- Two steps that give the same and leave files that are alike in a directory. -/
structure SameStep (top : Place) (one other : Step) : Prop where
  log : other.log = one.log
  outcome : other.outcome = one.outcome
  batch : other.batch = one.batch
  tree : FileTree.Alike top one.tree other.tree

/-- An attempt at a candidate whose document cannot be written ends with the error of that. -/
theorem attempt_of_blocked {c : Candidate} {e : FileError} (hw : rendering? s r c = some w)
    (hfault : (w.write s t).error? = some e) :
    attempt s r t c = (warnings s r c, .ended (w.writeError s e) (w.write s t).tree) := by
  obtain ⟨rfl, hmap⟩ := rendering?_eq_some_iff.mp hw
  rw [attempt, hmap]
  exact Prod.ext rfl (writeDocument_eq_ended hfault)

/-- Among candidates of the roster, the step over files that are alike in the directory is the same
one. -/
theorem advance_alike (hkeeps : s.KeepsTo t) (hv : t.HasDocuments v) (hu : t.HasDocuments u)
    (h : FileTree.Alike (t.spelled s.directory) v u) (hr : (discover s t).outcome = .ok r)
    (hcs : ∀ c ∈ cs, c ∈ r.candidates) :
    SameStep (t.spelled s.directory) (Batch.advance s r v cs) (Batch.advance s r u cs) := by
  induction cs with
  | nil => exact ⟨rfl, rfl, rfl, h⟩
  | cons c rest ih =>
    obtain ⟨hc, hrest⟩ := List.forall_mem_cons.mp hcs
    rcases attempt_cases s r v c with
      ⟨w, hw, hfree, hattempt⟩ | ⟨w, e, hw, hfault, hattempt⟩ | ⟨e, -, -, hattempt⟩ |
      ⟨e, hfailed, hfast, hattempt⟩
    · -- the document is written in both
      obtain ⟨rfl, -⟩ := rendering?_eq_some_iff.mp hw
      obtain ⟨herror, htree⟩ := write_alike hkeeps hv hu h (mem_renderings hr hc hw)
      have hattempt' := attempt_of_written hw (herror.trans hfree)
      simp only [Batch.advance, hattempt, hattempt']
      exact ⟨rfl, rfl, rfl, htree⟩
    · -- it cannot be written in either
      obtain ⟨rfl, -⟩ := rendering?_eq_some_iff.mp hw
      obtain ⟨herror, htree⟩ := write_alike hkeeps hv hu h (mem_renderings hr hc hw)
      have hattempt' := attempt_of_blocked hw (herror.trans hfault)
      simp only [Batch.advance, hattempt, hattempt']
      exact ⟨rfl, rfl, rfl, htree⟩
    · have hfurther := ih hrest
      simp only [Batch.advance, hattempt, attempt_of_leftOut hattempt u]
      exact ⟨by rw [hfurther.log], hfurther.outcome, hfurther.batch, hfurther.tree⟩
    · have hattempt' : attempt s r u c = (warnings s r c, .ended (.mapping e) u) := by
        simp [attempt, hfailed, hfast, warnings]
      simp only [Batch.advance, hattempt, hattempt']
      exact ⟨rfl, rfl, rfl, h⟩

/-- A batch takes the same step over files that are alike in its directory. `hfits` is needed when
it begins: a directory of another batch can make a search path too long that led nowhere before. -/
theorem next_alike (hkeeps : s.KeepsTo t) (hsound : t.isSound = true) (hb : b.IsOf s t)
    (hv : t.HasDocuments v) (hu : t.HasDocuments u)
    (h : FileTree.Alike (t.spelled s.directory) v u) (hfits : b.stage = .pending → s.Fits u) :
    SameStep (t.spelled s.directory) (b.next v) (b.next u) := by
  obtain ⟨settings, stage⟩ := b
  obtain rfl : settings = s := hb.settings
  cases stage with
  | finished => exact ⟨rfl, rfl, rfl, h⟩
  | running r cs =>
    obtain ⟨hr, hcs⟩ := hb.candidates r cs rfl
    exact advance_alike hkeeps hv hu h hr hcs
  | pending =>
    -- both find the candidates of the tree that they have grown from
    have hdiscover := discover_among hkeeps hsound hu (hfits rfl)
    have hdiscover' := discover_among hkeeps hsound hv ((hfits rfl).of_grows h.grows)
    cases hr : (discover settings t).outcome with
    | error e =>
      simp only [Batch.next, hdiscover, hdiscover', hr]
      exact ⟨rfl, rfl, rfl, h⟩
    | ok r =>
      have hsame := advance_alike hkeeps hv hu h hr fun c hc => hc
      simp only [Batch.next, hdiscover, hdiscover', hr]
      exact ⟨by rw [hsame.log], hsame.outcome, hsame.batch, hsame.tree⟩

end OrmMapping
