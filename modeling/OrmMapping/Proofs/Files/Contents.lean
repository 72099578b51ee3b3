import Mathlib.Data.List.Nodup
import OrmMapping.Proofs.Files.Growth

/-!
# What files hold

Making directories changes the content of no file, and neither does a file that could not be
written. Writing a file changes what the file at its own place holds, and no other.

* `FileTree.content?`: what the file at a place holds, if there is one;
* `mem_workingFiles_iff`: the same for the files that are listed below the working directory;
* `content?_of_makes`: directories that are made change no content;
* `writeIn_cases`: the two ways in which writing can end, and what they change.
-/

namespace OrmMapping

namespace FileTree

/-- What the file at a place holds, if a file stands there. -/
def content? (t : FileTree) (place : Place) : Option (List UInt8) :=
  match t.lookup? place with
  | some (.file content) => some content
  | _ => none

variable {t t' : FileTree} {place other : Place} {path directory : Path} {content : List UInt8}

/-- What the file at a place holds counts on what stands there only. -/
theorem content?_of_lookup?_eq (h : t'.lookup? place = t.lookup? place) :
    t'.content? place = t.content? place := by
  unfold content?
  rw [h]

/-- A directory that is put where nothing stood leaves the contents of all files as they are. -/
theorem content?_put_directory (hfree : t.lookup? place = none) (other : Place) :
    (t.put place .directory).content? other = t.content? other := by
  by_cases hother : other = place
  · subst hother
    have hplace : t.lookup? other ≠ some .directory := by
      rw [hfree]
      simp
    unfold content?
    rw [lookup?_put_self hplace, hfree]
  · exact content?_of_lookup?_eq (lookup?_put_of_ne hother _)

/-- Away from the top, what the file at a place holds is in the entry of that place. -/
theorem content?_eq_some_iff (hne : place ≠ []) :
    t.content? place = some content ↔ t.entries.lookup place = some (.file content) := by
  have hlookup : t.lookup? place = t.entries.lookup place := by
    cases place with
    | nil => exact absurd rfl hne
    | cons name names => rfl
  unfold content?
  rw [hlookup]
  cases t.entries.lookup place with
  | none => simp
  | some entry => cases entry <;> simp

/-- Where no two entries have one place, `workingFiles` lists a file below the working directory
with what `content?` says that it holds. -/
theorem mem_workingFiles_iff (hdistinct : (t.entries.map (·.1)).Nodup) {names : List String}
    (hne : t.workingDirectory ++ names ≠ []) :
    (⟨.workingDirectory, names⟩, content) ∈ t.workingFiles ↔
      t.content? (t.workingDirectory ++ names) = some content := by
  have hlisted : (⟨.workingDirectory, names⟩, content) ∈ t.workingFiles ↔
      (t.workingDirectory ++ names, .file content) ∈ t.entries := by
    unfold workingFiles
    rw [List.mem_filterMap]
    constructor
    · rintro ⟨⟨p, entry⟩, hentry, hfile⟩
      cases entry with
      | directory => cases hfile
      | file old =>
        dsimp only at hfile
        split at hfile
        · next hbelow =>
          cases hfile
          obtain ⟨rest, rfl⟩ := List.isPrefixOf_iff_prefix.mp hbelow
          rwa [List.drop_left]
        · cases hfile
    · intro hentry
      refine ⟨_, hentry, ?_⟩
      have hbelow : t.workingDirectory.isPrefixOf (t.workingDirectory ++ names) = true :=
        List.isPrefixOf_iff_prefix.mpr (List.prefix_append _ _)
      simp only [hbelow, if_true, List.drop_left]
  rw [hlisted, content?_eq_some_iff hne, List.lookup_eq_some_iff]
  constructor
  · intro hentry
    obtain ⟨before, after, hentries⟩ := List.append_of_mem hentry
    refine ⟨before, after, hentries, fun x hx => ?_⟩
    -- an earlier entry of that place would be a second one
    rw [hentries, List.map_append, List.map_cons, List.nodup_middle, List.nodup_cons] at hdistinct
    have hbefore : x.1 ∈ before.map (·.1) ++ after.map (·.1) :=
      List.mem_append_left _ (List.mem_map_of_mem hx)
    rw [bne_iff_ne]
    intro heq
    exact hdistinct.1 (heq ▸ hbefore)
  · rintro ⟨before, after, hentries, -⟩
    rw [hentries]
    exact List.mem_append_right _ List.mem_cons_self

/-- Directories that are made one after the other leave the contents of all files as they are. -/
theorem content?_of_makes (h : MakesDirectories t t') (place : Place) :
    t'.content? place = t.content? place := by
  induction h with
  | refl => rfl
  | tail _ hmade ih =>
    obtain ⟨new, hfree, rfl⟩ := hmade
    rw [content?_put_directory hfree, ih]

/-- All that writing a file can do: it fails and has made directories at most, or the path leads to
the file, and no other file holds anything else than before. -/
theorem writeIn_cases (t : FileTree) (directory path : Path) (content : List UInt8) :
    (∃ e, (t.writeIn directory path content).error? = some e ∧
      MakesDirectories t (t.writeIn directory path content).tree) ∨
    ((t.writeIn directory path content).error? = none ∧
      ∃ place, t.Wrote (t.writeIn directory path content).tree path place content ∧
        ∀ other, other ≠ place →
          (t.writeIn directory path content).tree.content? other = t.content? other) := by
  have hmakes := makeDirectories_makes t directory
  cases herror : (t.writeIn directory path content).error? with
  | some e =>
    refine Or.inl ⟨e, rfl, ?_⟩
    unfold writeIn at herror ⊢
    cases hmade : (t.makeDirectories directory).error? with
    | some e' =>
      simp only [hmade]
      exact hmakes
    | none =>
      simp only [hmade] at herror ⊢
      cases hwrite : (t.makeDirectories directory).tree.write path content with
      | ok written =>
        rw [hwrite] at herror
        cases herror
      | error e' => exact hmakes
  | none =>
    refine Or.inr ⟨rfl, ?_⟩
    obtain ⟨place, hwrote⟩ := writeIn_wrote herror
    refine ⟨place, hwrote, fun other hother => ?_⟩
    obtain ⟨named, htarget, hfree, hput⟩ := write_eq_ok (writeIn_eq_ok herror).2
    -- the file is found where the path named a place for it
    have hnamed : named = place := by
      have hgrows : (t.makeDirectories directory).tree.Grows
          (t.writeIn directory path content).tree := by
        rw [hput]
        exact grows_put_file hfree
      have hlocate := locate_of_target htarget hgrows (by
        rw [hput, lookup?_put_self hfree, Option.isSome_some])
      exact Except.ok.inj (hlocate.symm.trans hwrote.locate)
    subst hnamed
    rw [hput, content?_of_lookup?_eq (lookup?_put_of_ne hother _), content?_of_makes hmakes]

end FileTree

end OrmMapping
