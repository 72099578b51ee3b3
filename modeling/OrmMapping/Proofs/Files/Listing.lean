import OrmMapping.Proofs.Files.Additions
import OrmMapping.Proofs.Text.Order

/-!
# What stands below a place

The files below a place are listed in one order, whatever the order of the entries. Of a tree to
which files of a kind were added, the list is the same but for these files.

* `FileTree.mem_allBelow_iff`, `FileTree.mem_filesBelow_iff`: what is listed;
* `FileTree.filter_filesBelow`: what is listed when more has been written.
-/

namespace OrmMapping

namespace FileTree

variable {Kind : Place → Prop} {t t' : FileTree} {place : Place} {names : List String}
  {p : List String → Bool}

/-- The names that lead from a place to others. -/
def namesAmong (place : Place) (places : List Place) : List (List String) :=
  places.filterMap fun p =>
    if place.isPrefixOf p && p != place then some (p.drop place.length) else none

/-- What stands below a place counts on the places of the entries only. -/
theorem namesBelow_eq (place : Place) (entries : List (Place × FileEntry)) :
    namesBelow place entries = namesAmong place (entries.map (·.1)) := by
  rw [namesBelow, namesAmong, List.filterMap_map]
  rfl

/-- `names` are listed when there are some and they lead from `place` to one of `places`. -/
theorem mem_namesAmong_iff {places : List Place} :
    names ∈ namesAmong place places ↔ names ≠ [] ∧ place ++ names ∈ places := by
  unfold namesAmong
  rw [List.mem_filterMap]
  constructor
  · rintro ⟨p, hp, hnames⟩
    split at hnames
    · next hbelow =>
      cases hnames
      rw [Bool.and_eq_true, List.isPrefixOf_iff_prefix] at hbelow
      obtain ⟨⟨rest, rfl⟩, hne⟩ := hbelow
      rw [List.drop_left]
      refine ⟨?_, hp⟩
      rintro rfl
      simp at hne
    · cases hnames
  · rintro ⟨hne, hp⟩
    refine ⟨place ++ names, hp, ?_⟩
    have hbelow : (place.isPrefixOf (place ++ names) && place ++ names != place) = true := by
      rw [Bool.and_eq_true, List.isPrefixOf_iff_prefix]
      exact ⟨List.prefix_append _ _, by simpa using hne⟩
    rw [if_pos hbelow, List.drop_left]

/-- `names` are listed below `place` when there are some and something was put where they lead. -/
theorem mem_allBelow_iff :
    names ∈ t.allBelow place ↔ names ≠ [] ∧ place ++ names ∈ t.keys := by
  rw [allBelow, List.mem_mergeSort, namesBelow_eq, mem_namesAmong_iff]
  rfl

/-- Where something stood, a file stands in the tree that has grown exactly if one stood there. -/
theorem isFileAt_of_grows (hgrows : t.Grows t') (h : (t.lookup? place).isSome = true) :
    t'.isFileAt place = t.isFileAt place := by
  unfold isFileAt
  cases hentry : t.lookup? place with
  | none =>
    rw [hentry] at h
    cases h
  | some entry =>
    cases entry with
    | directory => rw [hgrows.directory place hentry]
    | file content =>
      obtain ⟨content', hfile⟩ := hgrows.file place content hentry
      rw [hfile]

/-- `isFileAt` tells whether a file with some content stands at a place. -/
theorem isFileAt_iff :
    t.isFileAt place = true ↔ ∃ content, t.lookup? place = some (.file content) := by
  unfold isFileAt
  cases t.lookup? place with
  | none => simp
  | some entry => cases entry <;> simp

/-- `names` are listed among the files below `place` when there are some and a file stands where
they lead. -/
theorem mem_filesBelow_iff :
    names ∈ t.filesBelow place ↔ names ≠ [] ∧ t.isFileAt (place ++ names) = true := by
  rw [filesBelow, List.mem_filter, mem_allBelow_iff, and_assoc]
  refine and_congr_right fun hne => ⟨And.right, fun hfile => ⟨?_, hfile⟩⟩
  obtain ⟨content, hcontent⟩ := isFileAt_iff.mp hfile
  exact mem_keys_of_isSome (by simp [hne]) (by rw [hcontent, Option.isSome_some])

/-- Of the files below `place` those that `p` keeps are the same as before, when files of a `Kind`
were added that `p` passes over. -/
theorem filter_filesBelow (hadds : t.Adds Kind t')
    (hkind : ∀ names, names ≠ [] → Kind (place ++ names) → p names = false) :
    (t'.filesBelow place).filter p = (t.filesBelow place).filter p := by
  obtain ⟨new, hkeys, hnew⟩ := hadds.keys
  have hbelow : namesBelow place t'.entries =
      namesBelow place t.entries ++ namesAmong place new := by
    rw [namesBelow_eq, namesBelow_eq]
    simp only [keys] at hkeys
    rw [hkeys, namesAmong, List.filterMap_append]
    rfl
  unfold filesBelow allBelow
  rw [List.filter_filter, List.filter_filter, hbelow]
  -- the new entries come after the old ones, and sorting them in leaves what is kept in order
  refine Text.filter_mergeSort_append _ _ ?_ ?_
  · -- what was there before is what it was
    intro names hnames
    rw [namesBelow_eq, mem_namesAmong_iff] at hnames
    rw [isFileAt_of_grows hadds.grows (isSome_of_mem_keys hnames.2)]
  · intro names hnames
    obtain ⟨hne, hplace⟩ := mem_namesAmong_iff.mp hnames
    rcases hnew _ hplace with hdirectory | hkinds
    · simp [isFileAt, hdirectory]
    · simp [hkind names hne hkinds]

end FileTree

end OrmMapping
