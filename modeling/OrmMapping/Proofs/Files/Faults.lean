import OrmMapping.Files.Tree

/-!
# What can be wrong with paths

A null character in a path is told apart from all that the system itself finds wrong with it. It
comes from the text of the path alone, so a path without one never fails that way. A path is too
long as a whole or in one of its names, again whatever the files.

* `Path.NullFree`: no name of the path has a null character;
* `Path.NullFree.join`, `nullFree_ofString`: paths made of such texts;
* `writeIn_fault_ne`: what writing a file can fail with;
* `Path.TooLong`, `tooLong_of_locate`: paths that are too long.
-/

namespace OrmMapping

namespace Path

variable {p q : Path} {s : String}

/-- The text of a path has a null character exactly when one of its names has one, as neither the
separator nor an anchor has. -/
theorem nullFree_iff : p.NullFree ↔ '\x00' ∉ p.text.toList := by
  have hjoined : '\x00' ∈ (p.anchor.text ++ Text.joinWith "/" p.parts).toList ↔
      ∃ name ∈ p.parts, '\x00' ∈ name.toList := by
    have hanchor : '\x00' ∉ p.anchor.text.toList := by
      cases p.anchor <;> decide
    rw [String.toList_append, List.mem_append, Text.mem_joinWith_iff (by decide)]
    exact or_iff_right hanchor
  have hempty : '\x00' ∉ ".".toList := by decide
  unfold NullFree Path.text
  dsimp only
  split
  · next hwritten =>
    -- the path has no names, or at least no characters in them
    rw [String.isEmpty_iff.mp hwritten] at hjoined
    simpa [hempty] using hjoined
  · rw [hjoined]
    simp

/-- The path above has no names of its own. -/
theorem NullFree.parent (h : p.NullFree) : p.parent.NullFree :=
  fun name hname => h name (List.dropLast_subset _ hname)

/-- Joining two such paths gives another one. -/
theorem NullFree.join (hp : p.NullFree) (hq : q.NullFree) : (p.join q).NullFree := by
  unfold Path.join
  split
  · intro name hname
    rcases List.mem_append.mp hname with hname | hname
    · exact hp name hname
    · exact hq name hname
  · exact hq

/-- A text without a null character is a path without one. -/
theorem nullFree_ofString (h : '\x00' ∉ s.toList) : (ofString s).NullFree := by
  intro name hname
  obtain ⟨hname, -⟩ := List.mem_filter.mp hname
  obtain ⟨part, hpart, rfl⟩ := List.mem_map.mp hname
  rw [String.toList_ofList]
  exact fun hnull => h (Text.mem_of_mem_splitChars hpart hnull)

/-- The path is too long, as a whole or in one of its names. -/
def TooLong (p : Path) : Prop :=
  FileTree.maxPathLength < p.text.utf8ByteSize ∨
    ∃ name ∈ p.parts, FileTree.maxNameLength < name.utf8ByteSize

end Path

namespace FileTree

variable {t : FileTree} {path directory : Path} {here place : Place} {name : String}
  {names : List String} {content : List UInt8} {e : FileError}

/-- Without a null character, only the length of a path counts. -/
theorem pathFault?_of_nullFree (h : path.NullFree) :
    pathFault? path =
      if maxPathLength < path.text.utf8ByteSize then some .nameTooLong else none := by
  have hclear : path.text.toList.contains '\x00' = false := by
    rw [List.contains_eq_mem, decide_eq_false (Path.nullFree_iff.mp h)]
  simp only [pathFault?, hclear, Bool.false_eq_true, if_false]

/-- Such a path is never at fault for a null character. -/
theorem pathFault?_ne_nullCharacter (h : path.NullFree) :
    pathFault? path ≠ some .nullCharacter := by
  rw [pathFault?_of_nullFree h]
  split <;> simp

/-- A path that is not at fault has no null character. -/
theorem nullFree_of_pathFault? (h : pathFault? path = none) : path.NullFree := by
  rw [Path.nullFree_iff]
  intro hnull
  unfold pathFault? at h
  simp [hnull] at h

/-! ## No null character -/

/-- No step fails for a null character. -/
theorem step_ne_nullCharacter (t : FileTree) (here : Place) (name : String) :
    t.step here name ≠ .error .nullCharacter := by
  unfold step
  split
  · simp
  · simp
  · split
    · simp
    · split <;> simp

/-- No names fail for a null character on their way. -/
theorem walk_ne_nullCharacter (t : FileTree) (here : Place) (names : List String) :
    t.walk here names ≠ .error .nullCharacter := by
  -- every step starts where the one before it has led to
  induction names generalizing here with
  | nil =>
    unfold walk
    split <;> simp
  | cons name rest ih =>
    unfold walk
    split
    · next fault hstep =>
      rw [← hstep]
      exact step_ne_nullCharacter t here name
    · exact ih _

/-- What a path without a null character names is never refused for one. -/
theorem target_ne_nullCharacter (h : path.NullFree) : t.target path ≠ .error .nullCharacter := by
  unfold target
  split
  · next fault _ hfault =>
    intro heq
    cases heq
    exact pathFault?_ne_nullCharacter h hfault
  · simp
  · split
    · next fault hwalk =>
      rw [← hwalk]
      exact walk_ne_nullCharacter t _ _
    · exact step_ne_nullCharacter t _ _

/-- Making the directory of such a path never fails for a null character. -/
theorem ensureDirectory_fault_ne (h : path.NullFree) (hfailed : t.ensureDirectory path = .error e) :
    e.fault ≠ .nullCharacter := by
  unfold ensureDirectory at hfailed
  split at hfailed
  · cases hfailed
  · next fault hmade =>
    split at hfailed
    · cases hfailed
    · cases hfailed
      rintro rfl
      -- the fault is that of the place to make it at
      unfold makeDirectory at hmade
      split at hmade
      · next fault htarget =>
        cases hmade
        exact target_ne_nullCharacter h htarget
      · split at hmade <;> cases hmade

/-- Neither does the change of it. -/
theorem change_fault_ne (h : path.NullFree)
    (hfailed : (Change.of t (t.ensureDirectory path)).error? = some e) :
    e.fault ≠ .nullCharacter := by
  cases hmade : t.ensureDirectory path with
  | ok made =>
    rw [hmade] at hfailed
    cases hfailed
  | error fault =>
    rw [hmade] at hfailed
    cases hfailed
    exact ensureDirectory_fault_ne h hmade

/-- Making the directories of `names` without a null character never fails for one. -/
theorem makeDirectoriesOf_fault_ne {anchor : Anchor} (h : ∀ name ∈ names, '\x00' ∉ name.toList)
    (hfailed : (makeDirectoriesOf anchor t names).error? = some e) : e.fault ≠ .nullCharacter := by
  -- the paths above have no null character either, as their names are among these
  induction names with
  | nil => exact change_fault_ne (by simp [Path.NullFree]) hfailed
  | cons name above ih =>
    have hpath : Path.NullFree ⟨anchor, (name :: above).reverse⟩ :=
      fun part hpart => h part (List.mem_reverse.mp hpart)
    simp only [makeDirectoriesOf] at hfailed
    split at hfailed
    · cases hfailed
    · next fault hmade =>
      split at hfailed
      · split at hfailed
        · exact change_fault_ne hpath hfailed
        · exact ih (fun part hpart => h part (List.mem_cons_of_mem name hpart)) hfailed
      · cases hfailed
        exact ensureDirectory_fault_ne hpath hmade

/-- Writing a file where neither path has a null character never fails for one. -/
theorem writeIn_fault_ne (hdirectory : directory.NullFree) (hpath : path.NullFree)
    (hfailed : (t.writeIn directory path content).error? = some e) : e.fault ≠ .nullCharacter := by
  simp only [writeIn] at hfailed
  split at hfailed
  · exact makeDirectoriesOf_fault_ne (fun name hname => hdirectory name (List.mem_reverse.mp hname))
      hfailed
  · generalize (t.makeDirectories directory).tree = made at hfailed
    unfold write at hfailed
    split at hfailed
    · next fault htarget =>
      cases hfailed
      rintro rfl
      exact target_ne_nullCharacter hpath htarget
    · split at hfailed
      · cases hfailed
        simp
      · cases hfailed

/-! ## Length -/

/-- Names that fail for a name that is too long have one among them. -/
theorem tooLong_of_walk (h : t.walk here names = .error .nameTooLong) :
    ∃ name ∈ names, maxNameLength < name.utf8ByteSize := by
  induction names generalizing here with
  | nil =>
    unfold walk at h
    split at h <;> cases h
  | cons name rest ih =>
    unfold walk at h
    split at h
    · next fault hstep =>
      cases h
      refine ⟨name, List.mem_cons_self, ?_⟩
      unfold step at hstep
      split at hstep
      · cases hstep
      · cases hstep
      · split at hstep
        · cases hstep
        · split at hstep
          · next hlong => exact hlong
          · cases hstep
    · obtain ⟨long, hmem, hlong⟩ := ih h
      exact ⟨long, List.mem_cons_of_mem name hmem, hlong⟩

/-- A path at fault is too long or has a null character. -/
theorem tooLong_of_pathFault? (h : (pathFault? path).isSome = true) :
    path.TooLong ∨ ¬ path.NullFree := by
  rw [Path.nullFree_iff, Classical.not_not]
  unfold pathFault? at h
  dsimp only at h
  split at h
  · next hnull => exact Or.inr (by simpa using hnull)
  · split at h
    · next hlong => exact Or.inl (Or.inl hlong)
    · cases h

/-- A path that leads nowhere for its length is too long. -/
theorem tooLong_of_locate (h : t.locate path = .error .nameTooLong) : path.TooLong := by
  unfold locate at h
  split at h
  · next fault hfault =>
    cases h
    unfold pathFault? at hfault
    dsimp only at hfault
    split at hfault
    · cases hfault
    · split at hfault
      · next hlong => exact Or.inl hlong
      · cases hfault
  · exact Or.inr (tooLong_of_walk h)

/-- The step up is short. -/
theorem ne_up_of_long (hlong : maxNameLength < name.utf8ByteSize) : name ≠ up := by
  rintro rfl
  revert hlong
  decide

/-- After names that lead to a directory, a name that is too long fails for its length. -/
theorem walk_concat_of_long (hwalk : t.walk here names = .ok place)
    (hdirectory : t.lookup? place = some .directory) (hlong : maxNameLength < name.utf8ByteSize) :
    t.walk here (names ++ [name]) = .error .nameTooLong := by
  induction names generalizing here with
  | nil =>
    unfold walk at hwalk
    split at hwalk
    · cases hwalk
      have hup : ¬ (name == up) = true := by simpa using ne_up_of_long hlong
      simp only [List.nil_append, walk, step, hdirectory, if_neg hup, if_pos hlong]
    · cases hwalk
  | cons first rest ih =>
    unfold walk at hwalk
    split at hwalk
    · cases hwalk
    · next next hstep =>
      simp only [List.cons_append, walk, hstep]
      exact ih hwalk

/-- A path whose last name is too long, looked for in a directory, leads nowhere for its length. -/
theorem locate_of_longName (hfree : path.NullFree) (hparts : path.parts = names ++ [name])
    (hwalk : t.walk (t.start path) names = .ok place)
    (hdirectory : t.lookup? place = some .directory) (hlong : maxNameLength < name.utf8ByteSize) :
    t.locate path = .error .nameTooLong := by
  unfold locate
  rw [pathFault?_of_nullFree hfree]
  by_cases hsize : maxPathLength < path.text.utf8ByteSize
  · -- it is too long as a whole
    rw [if_pos hsize]
  · rw [if_neg hsize, hparts]
    exact walk_concat_of_long hwalk hdirectory hlong

end FileTree

end OrmMapping
