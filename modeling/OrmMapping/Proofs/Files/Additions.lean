import OrmMapping.Proofs.Files.Sound

/-!
# What writing adds to a file tree

Making directories and writing files puts new entries after the old ones: directories, and the files
that were written. Other files keep their contents. Writing a file once more, at a place where it is
already, changes its content and nothing else.

* `FileTree.Adds`: what a tree has more than before;
* `writeIn_adds`: writing a file;
* `writeIn_again`: writing it once more.
-/

namespace OrmMapping

namespace FileTree

/-- A tree after files were written in it at places of a kind: it has grown, what is new is a
directory or such a file, and other files keep their contents. -/
structure Adds (Kind : Place → Prop) (t t' : FileTree) : Prop where
  grows : t.Grows t'
  keys : ∃ new, t'.keys = t.keys ++ new ∧
    ∀ place ∈ new, t'.lookup? place = some .directory ∨ Kind place
  files : ∀ place content, ¬ Kind place → t.lookup? place = some (.file content) →
    t'.lookup? place = some (.file content)

variable {Kind : Place → Prop} {t t' t'' : FileTree} {place : Place} {path directory : Path}
  {content old : List UInt8}

/-- Every tree is itself with nothing added. -/
theorem Adds.refl (Kind : Place → Prop) (t : FileTree) : t.Adds Kind t :=
  ⟨Grows.refl t, ⟨[], by simp, by simp⟩, fun _ _ _ h => h⟩

/-- What is added in two goes is added, the later after the earlier. -/
theorem Adds.trans (h : t.Adds Kind t') (h' : t'.Adds Kind t'') : t.Adds Kind t'' := by
  obtain ⟨new, hkeys, hnew⟩ := h.keys
  obtain ⟨new', hkeys', hnew'⟩ := h'.keys
  refine ⟨h.grows.trans h'.grows, ⟨new ++ new', ?_, ?_⟩, ?_⟩
  · rw [hkeys', hkeys, List.append_assoc]
  · intro place hplace
    rcases List.mem_append.mp hplace with hplace | hplace
    · exact (hnew place hplace).imp_left (h'.grows.directory place)
    · exact hnew' place hplace
  · intro place content hkind hfile
    exact h'.files place content hkind (h.files place content hkind hfile)

/-- A file where nothing stood stands at a place of the `Kind` that is written. -/
theorem Adds.kind_of_new (h : t.Adds Kind t') (hnone : t.lookup? place = none)
    (hfile : t'.lookup? place = some (.file content)) : Kind place := by
  have hne : place ≠ [] := by
    rintro rfl
    cases hnone
  obtain ⟨new, hkeys, hnew⟩ := h.keys
  have hmem := mem_keys_of_isSome hne (by rw [hfile, Option.isSome_some])
  rw [hkeys] at hmem
  -- the place is a new one, as nothing stood there, and what is new is a directory or of the kind
  rcases List.mem_append.mp hmem with hold | hmem
  · have hsome := isSome_of_mem_keys hold
    rw [hnone] at hsome
    cases hsome
  · rcases hnew place hmem with hdirectory | hkind
    · rw [hfile] at hdirectory
      cases hdirectory
    · exact hkind

/-- A path that leads to a file reads as its content. -/
theorem read_of_locate (hlocate : t.locate path = .ok place)
    (hfile : t.lookup? place = some (.file content)) : t.read path = .ok content := by
  simp only [read, hlocate, hfile]

/-- A file that is not at a place of the `Kind` reads as before. -/
theorem Adds.read (h : t.Adds Kind t') (hlocate : t.locate path = .ok place)
    (hfile : t.lookup? place = some (.file content)) (hkind : ¬ Kind place) :
    t'.read path = t.read path := by
  rw [read_of_locate hlocate hfile,
    read_of_locate (h.grows.locate hlocate) (h.files place content hkind hfile)]

/-! ## Single entries -/

/-- `putEntry` keeps the places of the entries in order, and puts a new one after them. -/
theorem map_putEntry (entries : List (Place × FileEntry)) (place : Place) (entry : FileEntry) :
    (putEntry entries place entry).map (·.1) =
      if place ∈ entries.map (·.1) then entries.map (·.1) else entries.map (·.1) ++ [place] := by
  induction entries with
  | nil => simp [putEntry]
  | cons first rest ih =>
    obtain ⟨p, e⟩ := first
    by_cases hp : p = place
    · simp [putEntry, hp]
    · by_cases hrest : place ∈ rest.map (·.1)
      · rw [if_pos hrest] at ih
        simp only [putEntry, beq_eq_false_iff_ne.mpr hp, Bool.false_eq_true, if_false,
          List.map_cons, ih, List.mem_cons, hrest, or_true, if_true]
      · rw [if_neg hrest] at ih
        simp only [putEntry, beq_eq_false_iff_ne.mpr hp, Bool.false_eq_true, if_false,
          List.map_cons, ih, List.mem_cons, hrest, or_false, Ne.symm hp, List.cons_append]

/-- At most one place is new after `put`, the one that was put. -/
theorem keys_put (t : FileTree) (place : Place) (entry : FileEntry) :
    ∃ new, (t.put place entry).keys = t.keys ++ new ∧ ∀ p ∈ new, p = place := by
  have hkeys := map_putEntry t.entries place entry
  by_cases hplace : place ∈ t.entries.map (·.1)
  · rw [if_pos hplace] at hkeys
    exact ⟨[], by rw [List.append_nil]; exact hkeys, by simp⟩
  · rw [if_neg hplace] at hkeys
    exact ⟨[place], hkeys, by simp⟩

/-- A directory put where nothing stood adds no file, whatever the `Kind`. -/
theorem adds_put_directory (hfree : t.lookup? place = none) :
    t.Adds Kind (t.put place .directory) := by
  obtain ⟨new, hkeys, hnew⟩ := keys_put t place .directory
  refine ⟨⟨rfl, ?_, ?_⟩, ⟨new, hkeys, ?_⟩, ?_⟩
  · exact fun p h => lookup?_put_directory hfree h
  · exact fun p content h => ⟨content, lookup?_put_directory hfree h⟩
  · intro p hp
    rw [hnew p hp]
    exact Or.inl (lookup?_put_self (by simp [hfree]) _)
  · exact fun p content _ h => lookup?_put_directory hfree h

/-- A file put at a place of the `Kind`, where no directory stands, adds that file only. -/
theorem adds_put_file (hkind : Kind place) (hplace : t.lookup? place ≠ some .directory) :
    t.Adds Kind (t.put place (.file content)) := by
  obtain ⟨new, hkeys, hnew⟩ := keys_put t place (.file content)
  refine ⟨grows_put_file hplace, ⟨new, hkeys, ?_⟩, ?_⟩
  · intro p hp
    rw [hnew p hp]
    exact Or.inr hkind
  · intro p old hother hfile
    have hp : p ≠ place := by
      rintro rfl
      exact hother hkind
    rw [lookup?_put_of_ne hp]
    exact hfile

/-! ## Writing -/

/-- Making directories adds no file, whatever the `Kind`. -/
theorem makeDirectories_adds (t : FileTree) (path : Path) :
    t.Adds Kind (t.makeDirectories path).tree := by
  have h : ∀ {t'}, MakesDirectories t t' → t.Adds Kind t' := by
    intro t' hmakes
    induction hmakes with
    | refl => exact Adds.refl Kind t
    | tail _ hmade ih =>
      obtain ⟨place, hfree, rfl⟩ := hmade
      exact ih.trans (adds_put_directory hfree)
  exact h (makeDirectories_makes t path)

/-- Writing a file adds that file, if its place is of the kind, and the directories above it. When
it fails, directories are all that it may have added. -/
theorem writeIn_adds (t : FileTree) (directory path : Path) (content : List UInt8)
    (hkind : ∀ t' place, FileTree.target t' path = .ok place → Kind place) :
    t.Adds Kind (t.writeIn directory path content).tree := by
  have hmade : t.Adds Kind (t.makeDirectories directory).tree := makeDirectories_adds t directory
  unfold writeIn
  dsimp only
  split
  · exact hmade
  · cases hwrite : (t.makeDirectories directory).tree.write path content with
    | error e => exact hmade
    | ok written =>
      obtain ⟨place, htarget, hplace, rfl⟩ := write_eq_ok hwrite
      exact hmade.trans (adds_put_file (hkind _ place htarget) hplace)

/-! ## Writing once more -/

/-- The place that a path leads to is the one that it names. -/
theorem target_of_locate (h : t.locate path = .ok place) : t.target path = .ok place := by
  unfold locate at h
  unfold target
  split at h
  · cases h
  · next hfault =>
    -- a path without names leads to its start; any other one by a last step from the directory
    -- above
    cases hlast : path.parts.getLast? with
    | none =>
      have hparts : path.parts = [] := List.getLast?_eq_none_iff.mp hlast
      rw [hparts] at h
      simp only [walk] at h
      split at h
      · simp only [hfault]
        exact h
      · cases h
    | some name =>
      obtain ⟨front, hparts⟩ := List.getLast?_eq_some_iff.mp hlast
      rw [hparts] at h
      obtain ⟨parent, hparent, hstep, -⟩ := exists_walk_of_concat h
      simp only [hfault, hparts, List.dropLast_concat, hparent, hstep]

/-- `isDirectory` tells whether a path leads to a place where a directory stands. -/
theorem isDirectory_iff :
    t.isDirectory path = true ↔
      ∃ place, t.locate path = .ok place ∧ t.lookup? place = some .directory := by
  unfold isDirectory find?
  cases t.locate path with
  | error fault => simp
  | ok place => simp

/-- A path that leads to a directory still does when the tree has grown. -/
theorem isDirectory_of_grows (hgrows : t.Grows t') (h : t.isDirectory path = true) :
    t'.isDirectory path = true := by
  rw [isDirectory_iff] at h ⊢
  obtain ⟨place, hlocate, hdirectory⟩ := h
  exact ⟨place, hgrows.locate hlocate, hgrows.directory place hdirectory⟩

/-- The directory that `ensureDirectory` was to make is there. -/
theorem isDirectory_of_ensureDirectory (h : t.ensureDirectory path = .ok t') :
    t'.isDirectory path = true := by
  unfold ensureDirectory at h
  split at h
  · next made hmade =>
    cases h
    unfold makeDirectory at hmade
    split at hmade
    · cases hmade
    · next place htarget =>
      split at hmade
      · cases hmade
      · next hfree =>
        cases hmade
        rw [Bool.or_eq_true, not_or] at hfree
        have hnone : t.lookup? place = none := by simpa using hfree.1
        have hput : (t.put place .directory).lookup? place = some .directory :=
          lookup?_put_self (by simp [hnone]) _
        have hadds : t.Adds (fun _ => True) (t.put place .directory) := adds_put_directory hnone
        rw [isDirectory_iff]
        exact ⟨place, locate_of_target htarget hadds.grows (by rw [hput, Option.isSome_some]), hput⟩
  · split at h
    · next hthere =>
      cases h
      rw [Bool.and_eq_true] at hthere
      exact hthere.2
    · cases h

/-- After a change without failure, `path` leads to a directory, whether it was made or was there
before. -/
theorem isDirectory_of_change (h : (Change.of t (t.ensureDirectory path)).error? = none) :
    (Change.of t (t.ensureDirectory path)).tree.isDirectory path = true := by
  cases hmade : t.ensureDirectory path with
  | error e =>
    rw [hmade] at h
    cases h
  | ok made => exact isDirectory_of_ensureDirectory hmade

/-- The directory that `makeDirectories` was to make is there, if there was no failure. -/
theorem isDirectory_of_makeDirectories (h : (t.makeDirectories path).error? = none) :
    (t.makeDirectories path).tree.isDirectory path = true := by
  suffices hof : ∀ names, (makeDirectoriesOf path.anchor t names).error? = none →
      (makeDirectoriesOf path.anchor t names).tree.isDirectory ⟨path.anchor, names.reverse⟩ =
        true by
    have hpath := hof path.parts.reverse h
    rw [List.reverse_reverse] at hpath
    exact hpath
  intro names hnone
  cases names with
  | nil => exact isDirectory_of_change hnone
  | cons name above =>
    simp only [makeDirectoriesOf] at hnone ⊢
    split at hnone
    · next made hmade =>
      exact isDirectory_of_ensureDirectory hmade
    · next e hmade =>
      split at hnone
      · next hmissing =>
        split at hnone
        · next hhigher =>
          -- those above were made first
          simp only [hmissing, if_true]
          exact isDirectory_of_change hnone
        · next hhigher =>
          rw [hhigher] at hnone
          cases hnone
      · cases hnone

/-- A directory that is there is not made again, and that is no failure. -/
theorem ensureDirectory_again (h : t.isDirectory path = true) : t.ensureDirectory path = .ok t := by
  obtain ⟨place, hlocate, hdirectory⟩ := isDirectory_iff.mp h
  have hmade : t.makeDirectory path = .error .exists := by
    simp only [makeDirectory, target_of_locate hlocate, hdirectory, Option.isSome_some,
      Bool.true_or, if_true]
  simp only [ensureDirectory, hmade, h]
  rfl

/-- Where the directory is there, `makeDirectories` changes nothing and does not fail. -/
theorem makeDirectories_again (h : t.isDirectory path = true) :
    t.makeDirectories path = ⟨t, none⟩ := by
  obtain ⟨anchor, parts⟩ := path
  unfold makeDirectories
  -- the directory itself is tried first, and there it is
  cases hnames : parts.reverse with
  | nil =>
    rw [List.reverse_eq_nil_iff.mp hnames] at h
    simp only [makeDirectoriesOf, ensureDirectory_again h, Change.of]
  | cons name above =>
    have hpath : (name :: above).reverse = parts := by
      rw [← hnames, List.reverse_reverse]
    simp only [makeDirectoriesOf, hpath, ensureDirectory_again h]

/-- Where the directory is there and a file at the place of the path, writing puts the new content
in its place and does nothing else. -/
theorem writeIn_again (hdirectory : t.isDirectory directory = true)
    (hlocate : t.locate path = .ok place) (hfile : t.lookup? place = some (.file old)) :
    t.writeIn directory path content = ⟨t.put place (.file content), none⟩ := by
  simp only [writeIn, makeDirectories_again hdirectory, write, target_of_locate hlocate, hfile]
  rfl

end FileTree

end OrmMapping
