import Mathlib.Logic.Relation
import OrmMapping.Files.Tree

/-!
# How file trees grow

Making directories and writing files never takes anything away: what was a directory stays one, and
what was a file stays one, though its content may change. A path that led somewhere still leads
there, so that the place of a file is settled once the file is written.

* `FileTree.Grows`: one tree has grown from another;
* `Grows.locate`: a path keeps its place;
* `FileTree.Wrote`, `writeIn_wrote`: all that writing a file does.
-/

namespace OrmMapping

namespace FileTree

/-- One tree has grown from another: directories and files are still there. -/
structure Grows (t t' : FileTree) : Prop where
  workingDirectory : t'.workingDirectory = t.workingDirectory
  directory : ∀ place, t.lookup? place = some .directory → t'.lookup? place = some .directory
  file : ∀ place content, t.lookup? place = some (.file content) →
    ∃ content', t'.lookup? place = some (.file content')

/-- Files keep their contents, but for the one at a place. -/
def KeepsFiles (place : Place) (t t' : FileTree) : Prop :=
  ∀ other content, other ≠ place → t.lookup? other = some (.file content) →
    t'.lookup? other = some (.file content)

variable {t t' t'' : FileTree} {place here next : Place} {path : Path} {content : List UInt8}

/-- Every tree has grown from itself. -/
theorem Grows.refl (t : FileTree) : t.Grows t :=
  ⟨rfl, fun _ h => h, fun _ content h => ⟨content, h⟩⟩

/-- Growth in two goes is growth. -/
theorem Grows.trans (h : t.Grows t') (h' : t'.Grows t'') : t.Grows t'' := by
  constructor
  · rw [h'.workingDirectory, h.workingDirectory]
  · intro place hdirectory
    exact h'.directory place (h.directory place hdirectory)
  · intro place content hfile
    obtain ⟨content', hfile'⟩ := h.file place content hfile
    exact h'.file place content' hfile'

/-! ## Paths -/

/-- A path starts at the same place in a tree that has grown. -/
theorem Grows.start (h : t.Grows t') (path : Path) : t'.start path = t.start path := by
  unfold FileTree.start
  cases path.anchor with
  | workingDirectory => exact h.workingDirectory
  | root => rfl
  | doubleRoot => rfl

/-- Something stands where names lead to. -/
theorem isSome_of_walk {names : List String} (h : t.walk here names = .ok place) :
    (t.lookup? place).isSome = true := by
  induction names generalizing here with
  | nil =>
    unfold FileTree.walk at h
    split at h
    · next hsome =>
      cases h
      exact hsome
    · cases h
  | cons name rest ih =>
    unfold FileTree.walk at h
    split at h
    · cases h
    · exact ih h

/-- A path leads where its names lead from its start. -/
theorem walk_of_locate (h : t.locate path = .ok place) :
    t.walk (t.start path) path.parts = .ok place := by
  unfold FileTree.locate at h
  split at h
  · cases h
  · exact h

/-- Something stands where a path leads to. -/
theorem isSome_of_locate (h : t.locate path = .ok place) : (t.lookup? place).isSome = true :=
  isSome_of_walk (walk_of_locate h)

/-- Where something stood, something stands. -/
theorem Grows.isSome (h : t.Grows t') (hsome : (t.lookup? place).isSome) :
    (t'.lookup? place).isSome := by
  cases hentry : t.lookup? place with
  | none =>
    rw [hentry] at hsome
    cases hsome
  | some entry =>
    cases entry with
    | directory => rw [h.directory place hentry, Option.isSome_some]
    | file content =>
      obtain ⟨content', hfile⟩ := h.file place content hentry
      rw [hfile, Option.isSome_some]

/-- A step can only be taken in a directory. -/
theorem directory_of_step {name : String} (hstep : t.step here name = .ok next) :
    t.lookup? here = some .directory := by
  unfold step at hstep
  split at hstep
  · cases hstep
  · cases hstep
  · next hdirectory => exact hdirectory

/-- In a directory, where a step leads to depends on its `name` alone: the step up to the directory
above, any other one that is not too long to the place of that name. -/
theorem step_eq_ok_iff {name : String} (hdirectory : t.lookup? here = some .directory) :
    t.step here name = .ok next ↔
      (if name == up then next = here.dropLast
        else name.utf8ByteSize ≤ maxNameLength ∧ next = here ++ [name]) := by
  unfold step
  rw [hdirectory]
  by_cases hup : name == up
  · simp only [hup, if_true]
    constructor
    · intro h
      exact (Except.ok.inj h).symm
    · rintro rfl
      rfl
  · simp only [hup]
    by_cases hlong : maxNameLength < name.utf8ByteSize
    · simp [hlong, Nat.not_le.mpr hlong]
    · have hshort : name.utf8ByteSize ≤ maxNameLength := Nat.le_of_not_lt hlong
      simp [hlong, hshort, eq_comm]

/-- A step that could be taken still leads to the same place. -/
theorem Grows.step {name : String} (h : t.Grows t') (hstep : t.step here name = .ok next) :
    t'.step here name = .ok next := by
  have hdirectory := directory_of_step hstep
  rw [step_eq_ok_iff (h.directory here hdirectory)]
  exact (step_eq_ok_iff hdirectory).mp hstep

/-- Names that led to a place still lead there. -/
theorem Grows.walk {names : List String} (h : t.Grows t') (hwalk : t.walk here names = .ok place) :
    t'.walk here names = .ok place := by
  induction names generalizing here with
  | nil =>
    simp only [FileTree.walk] at hwalk ⊢
    split at hwalk
    · next hsome =>
      rw [if_pos (h.isSome hsome)]
      exact hwalk
    · cases hwalk
  | cons name rest ih =>
    simp only [FileTree.walk] at hwalk ⊢
    split at hwalk
    · cases hwalk
    · next next hstep =>
      rw [h.step hstep]
      exact ih hwalk

/-- A step fails for a name that is too long only in a directory, and not for the step up. -/
theorem step_of_nameTooLong {name : String} (hstep : t.step here name = .error .nameTooLong) :
    t.lookup? here = some .directory ∧ name ≠ up ∧ maxNameLength < name.utf8ByteSize := by
  unfold FileTree.step at hstep
  split at hstep
  · cases hstep
  · cases hstep
  · next hdirectory =>
    split at hstep
    · cases hstep
    · next hup =>
      split at hstep
      · next hlong => exact ⟨hdirectory, by simpa using hup, hlong⟩
      · cases hstep

/-- A name that was too long on the way is still too long. -/
theorem Grows.walk_nameTooLong {names : List String} (h : t.Grows t')
    (hwalk : t.walk here names = .error .nameTooLong) :
    t'.walk here names = .error .nameTooLong := by
  induction names generalizing here with
  | nil =>
    simp only [FileTree.walk] at hwalk
    split at hwalk <;> cases hwalk
  | cons name rest ih =>
    simp only [FileTree.walk] at hwalk ⊢
    split at hwalk
    · next fault hstep =>
      cases hwalk
      -- the step fails for its name, which has not changed
      obtain ⟨hdirectory, hup, hlong⟩ := step_of_nameTooLong hstep
      simp only [FileTree.step, h.directory here hdirectory, beq_eq_false_iff_ne.mpr hup, hlong,
        Bool.false_eq_true, if_false, if_true]
    · next next hstep =>
      rw [h.step hstep]
      exact ih hwalk

/-- A path that leads to a place leads there as well after the tree has grown. -/
theorem Grows.locate (h : t.Grows t') (hlocate : t.locate path = .ok place) :
    t'.locate path = .ok place := by
  unfold FileTree.locate at hlocate ⊢
  split at hlocate
  · cases hlocate
  · rw [h.start]
    exact h.walk hlocate

/-- When `names` lead to `place` and a step leads from there to `next`, where something stands, then
the names with one more lead to `next`. -/
theorem walk_concat {names : List String} {name : String}
    (hwalk : t.walk here names = .ok place) (hstep : t.step place name = .ok next)
    (hsome : (t.lookup? next).isSome) : t.walk here (names ++ [name]) = .ok next := by
  induction names generalizing here with
  | nil =>
    simp only [walk] at hwalk
    split at hwalk
    · cases hwalk
      simp only [List.nil_append, walk, hstep, hsome, if_true]
    · cases hwalk
  | cons first rest ih =>
    simp only [walk] at hwalk
    split at hwalk
    · cases hwalk
    · next middle hfirst =>
      simp only [List.cons_append, walk, hfirst]
      exact ih hwalk

/-- Conversely, names lead to `place` by a step from where all but the last of them lead to. -/
theorem exists_walk_of_concat {names : List String} {name : String}
    (hwalk : t.walk here (names ++ [name]) = .ok place) :
    ∃ parent, t.walk here names = .ok parent ∧ t.step parent name = .ok place ∧
      (t.lookup? place).isSome = true := by
  -- from the front; only the last step is of interest
  induction names generalizing here with
  | nil =>
    simp only [List.nil_append, walk] at hwalk
    split at hwalk
    · cases hwalk
    · next next hstep =>
      split at hwalk
      · next hsome =>
        cases hwalk
        have hhere : (t.lookup? here).isSome = true := by
          rw [directory_of_step hstep, Option.isSome_some]
        exact ⟨here, by simp only [walk, hhere, if_true], hstep, hsome⟩
      · cases hwalk
  | cons first rest ih =>
    simp only [List.cons_append, walk] at hwalk
    split at hwalk
    · cases hwalk
    · next middle hfirst =>
      obtain ⟨parent, hparent, hstep, hsome⟩ := ih hwalk
      exact ⟨parent, by simp only [walk, hfirst, hparent], hstep, hsome⟩

/-- A way whose last name is no step up ends at a place with that name. -/
theorem walk_concat_eq_ok {names : List String} {name : String} (hname : name ≠ up)
    (hwalk : t.walk here (names ++ [name]) = .ok place) : ∃ parent, place = parent ++ [name] := by
  obtain ⟨parent, -, hstep, -⟩ := exists_walk_of_concat hwalk
  have hlast := (step_eq_ok_iff (directory_of_step hstep)).mp hstep
  rw [if_neg (by simpa using hname)] at hlast
  exact ⟨parent, hlast.2⟩

/-! ## Single operations -/

/-- What was put at a place stands there, unless that was a directory already, as the top is. -/
theorem lookup?_put_self (hplace : t.lookup? place ≠ some .directory) (entry : FileEntry) :
    (t.put place entry).lookup? place = some entry := by
  have hne : place ≠ [] := by
    rintro rfl
    exact hplace rfl
  rw [lookup?_put t place place entry hne, if_pos rfl]

/-- Other places are as before. -/
theorem lookup?_put_of_ne {other : Place} (hother : other ≠ place) (entry : FileEntry) :
    (t.put place entry).lookup? other = t.lookup? other := by
  by_cases hempty : other = []
  · subst hempty
    rfl
  · rw [lookup?_put t place other entry hempty, if_neg hother]

/-- Where nothing stands, or a file, a file can be put. -/
theorem grows_put_file (hplace : t.lookup? place ≠ some .directory) :
    t.Grows (t.put place (.file content)) := by
  refine ⟨rfl, ?_, ?_⟩
  · intro other hdirectory
    have hother : other ≠ place := by
      rintro rfl
      exact hplace hdirectory
    rw [lookup?_put_of_ne hother]
    exact hdirectory
  · intro other old hfile
    -- a file at the place itself is still a file, with the new content
    by_cases hother : other = place
    · subst hother
      exact ⟨content, lookup?_put_self hplace _⟩
    · exact ⟨old, by rw [lookup?_put_of_ne hother, hfile]⟩

/-- Where nothing stands, a directory can be put, and no file changes. -/
theorem lookup?_put_directory (hplace : t.lookup? place = none) {other : Place} {entry : FileEntry}
    (hentry : t.lookup? other = some entry) :
    (t.put place .directory).lookup? other = some entry := by
  have hother : other ≠ place := by
    rintro rfl
    rw [hplace] at hentry
    cases hentry
  rw [lookup?_put_of_ne hother]
  exact hentry

/-- A tree after directories were made in it: everything that was there is as it was. -/
structure AddsDirectories (t t' : FileTree) : Prop where
  workingDirectory : t'.workingDirectory = t.workingDirectory
  entry : ∀ place entry, t.lookup? place = some entry → t'.lookup? place = some entry

/-- Every tree is itself with no directories added. -/
theorem AddsDirectories.refl (t : FileTree) : t.AddsDirectories t :=
  ⟨rfl, fun _ _ h => h⟩

/-- Directories made in two goes are directories made. -/
theorem AddsDirectories.trans (h : t.AddsDirectories t') (h' : t'.AddsDirectories t'') :
    t.AddsDirectories t'' := by
  constructor
  · rw [h'.workingDirectory, h.workingDirectory]
  · intro place entry hentry
    exact h'.entry place entry (h.entry place entry hentry)

/-- Making directories makes a tree grow. -/
theorem AddsDirectories.grows (h : t.AddsDirectories t') : t.Grows t' :=
  ⟨h.workingDirectory, fun place => h.entry place .directory,
    fun place content hfile => ⟨content, h.entry place _ hfile⟩⟩

/-- One directory more, where nothing stood. -/
def MakesDirectory (t t' : FileTree) : Prop :=
  ∃ place, t.lookup? place = none ∧ t' = t.put place .directory

/-- Directories made one after the other. -/
abbrev MakesDirectories : FileTree → FileTree → Prop :=
  Relation.ReflTransGen MakesDirectory

/-- `makeDirectory` puts a directory where nothing stood. -/
theorem makeDirectory_makes (h : t.makeDirectory path = .ok t') : MakesDirectory t t' := by
  unfold makeDirectory at h
  split at h
  · cases h
  · next place _ =>
    split at h
    · cases h
    · next hfree =>
      cases h
      refine ⟨place, ?_, rfl⟩
      cases hentry : t.lookup? place with
      | none => rfl
      | some entry =>
        rw [hentry] at hfree
        simp at hfree

/-- `ensureDirectory` makes one directory or none. -/
theorem ensureDirectory_makes (h : t.ensureDirectory path = .ok t') : MakesDirectories t t' := by
  unfold ensureDirectory at h
  split at h
  · next made hmade =>
    cases h
    exact .single (makeDirectory_makes hmade)
  · split at h
    · cases h
      exact .refl
    · cases h

/-- The change that `ensureDirectory` amounts to makes directories and nothing else; when it fails,
it has made none. -/
theorem change_makes (t : FileTree) (path : Path) :
    MakesDirectories t (Change.of t (t.ensureDirectory path)).tree := by
  cases hmade : t.ensureDirectory path with
  | error e => exact .refl
  | ok made => exact ensureDirectory_makes hmade

/-- `makeDirectoriesOf` makes directories one after the other, also those that were made before a
failure. -/
theorem makeDirectoriesOf_makes (anchor : Anchor) (t : FileTree) (names : List String) :
    MakesDirectories t (makeDirectoriesOf anchor t names).tree := by
  -- along the names in reverse, as the function goes
  induction names with
  | nil => exact change_makes t _
  | cons name above ih =>
    simp only [makeDirectoriesOf]
    split
    · next made hmade => exact ensureDirectory_makes hmade
    · split
      · split
        · -- those above were made, and this one comes after them
          exact ih.trans (change_makes _ _)
        · exact ih
      · exact .refl

/-- `makeDirectories` makes directories one after the other, whether it fails or not. -/
theorem makeDirectories_makes (t : FileTree) (path : Path) :
    MakesDirectories t (t.makeDirectories path).tree :=
  makeDirectoriesOf_makes path.anchor t path.parts.reverse

/-- After directories were made one after the other, everything that was there is as it was. -/
theorem addsDirectories_of_makes (h : MakesDirectories t t') : t.AddsDirectories t' := by
  induction h with
  | refl => exact AddsDirectories.refl t
  | tail _ hmade ih =>
    obtain ⟨place, hfree, rfl⟩ := hmade
    exact ih.trans ⟨rfl, fun _ _ hentry => lookup?_put_directory hfree hentry⟩

/-- After `makeDirectories` everything that was there is as it was. -/
theorem makeDirectories_addsDirectories (t : FileTree) (path : Path) :
    t.AddsDirectories (t.makeDirectories path).tree :=
  addsDirectories_of_makes (makeDirectories_makes t path)

/-! ## Writing -/

/-- The place that a path names is where it leads to once something stands there, in any tree that
has grown from the one it was named in. -/
theorem locate_of_target (htarget : t.target path = .ok place) (h : t.Grows t')
    (hsome : (t'.lookup? place).isSome) : t'.locate path = .ok place := by
  unfold target at htarget
  unfold locate
  split at htarget
  · cases htarget
  · next hfault hlast =>
    cases htarget
    have hparts : path.parts = [] := List.getLast?_eq_none_iff.mp hlast
    simp only [hfault, hparts, walk, h.start, hsome, if_true]
  · -- the last name is looked for in the directory that the others lead to
    next name hfault hlast =>
    split at htarget
    · cases htarget
    · next parent hparent =>
      obtain ⟨front, hparts⟩ := List.getLast?_eq_some_iff.mp hlast
      rw [hparts, List.dropLast_concat] at hparent
      have hwalk : t'.walk (t'.start path) front = .ok parent := by
        rw [h.start]
        exact h.walk hparent
      have hfound := walk_concat hwalk (h.step htarget) hsome
      rw [hfault, hparts]
      exact hfound

/-- All that writing a file does: the path leads to it, it has the content, and nothing else has
changed but for directories that were made. -/
structure Wrote (t t' : FileTree) (path : Path) (place : Place) (content : List UInt8) : Prop where
  grows : t.Grows t'
  locate : t'.locate path = .ok place
  content : t'.lookup? place = some (.file content)
  others : KeepsFiles place t t'

/-- Writing puts a file at the place that the path names, unless a directory stands there. -/
theorem write_eq_ok (h : t.write path content = .ok t') :
    ∃ place, t.target path = .ok place ∧ t.lookup? place ≠ some .directory ∧
      t' = t.put place (.file content) := by
  unfold write at h
  split at h
  · cases h
  · next place htarget =>
    split at h
    · cases h
    · next hplace =>
      cases h
      exact ⟨place, htarget, hplace, rfl⟩

/-- A file that could be written is there, and nothing else has changed. -/
theorem write_wrote (h : t.write path content = .ok t') :
    ∃ place, t.Wrote t' path place content := by
  obtain ⟨place, htarget, hplace, rfl⟩ := write_eq_ok h
  have hgrows : t.Grows (t.put place (.file content)) := grows_put_file hplace
  have hcontent : (t.put place (.file content)).lookup? place = some (.file content) :=
    lookup?_put_self hplace _
  refine ⟨place, hgrows, locate_of_target htarget hgrows ?_, hcontent, ?_⟩
  · rw [hcontent, Option.isSome_some]
  · intro other old hother hfile
    rw [lookup?_put_of_ne hother]
    exact hfile

/-- When writing with the directory made first does not fail, neither of its two parts does. -/
theorem writeIn_eq_ok {directory : Path} (h : (t.writeIn directory path content).error? = none) :
    (t.makeDirectories directory).error? = none ∧
      (t.makeDirectories directory).tree.write path content =
        .ok (t.writeIn directory path content).tree := by
  unfold writeIn at h ⊢
  cases herror : (t.makeDirectories directory).error? with
  | some e =>
    simp only [herror] at h
    cases h
  | none =>
    simp only [herror] at h ⊢
    cases hwrite : (t.makeDirectories directory).tree.write path content with
    | error e =>
      rw [hwrite] at h
      cases h
    | ok written => exact ⟨trivial, rfl⟩

/-- After `writeIn` without a failure the path leads to the file with its content, and other files
keep theirs. -/
theorem writeIn_wrote {directory : Path} (h : (t.writeIn directory path content).error? = none) :
    ∃ place, t.Wrote (t.writeIn directory path content).tree path place content := by
  have hmade := makeDirectories_addsDirectories t directory
  obtain ⟨place, hwrote⟩ := write_wrote (writeIn_eq_ok h).2
  refine ⟨place, hmade.grows.trans hwrote.grows, hwrote.locate, hwrote.content, ?_⟩
  intro other old hother hfile
  exact hwrote.others other old hother (hmade.entry other _ hfile)

end FileTree

end OrmMapping
