import OrmMapping.Proofs.Files.Additions
import OrmMapping.Proofs.Files.Faults
import OrmMapping.Proofs.Files.Listing

/-!
# Where plain paths lead to

In a sound tree, a path whose names directories can have leads to the place that it spells, or stops
at a file on the way, or is missing.

* `IsPlain`, `IsBlocked`: names that directories can have, and files in the way;
* `spelled`: the place that a path spells;
* `walk_cases`: where plain names lead to;
* `target_cases`: what a path with plain names above its last one names.
-/

namespace OrmMapping

namespace FileTree

/-- Whether a directory can have this name, and the name is no step up. -/
def IsPlain (name : String) : Prop :=
  name ≠ up ∧ name.utf8ByteSize ≤ maxNameLength

/-- Whether a file stands at a place or above it. -/
def IsBlocked (t : FileTree) (place : Place) : Prop :=
  ∃ above, above <+: place ∧ t.isFileAt above = true

/-- The place that a path without steps up spells. -/
def spelled (t : FileTree) (path : Path) : Place :=
  t.start path ++ path.parts

variable {t t' : FileTree} {place here : Place} {name : String} {names front : List String}
  {path : Path} {anchor : Anchor}

/-! ## Above and below -/

/-- In a directory a plain name leads to the place of that name. -/
theorem step_of_plain (hdirectory : t.lookup? here = some .directory) (hname : IsPlain name) :
    t.step here name = .ok (here ++ [name]) := by
  rw [step_eq_ok_iff hdirectory, if_neg (by simpa using hname.1)]
  exact ⟨hname.2, rfl⟩

/-- Above whatever stands somewhere in a sound tree there are directories. -/
theorem directory_above (h : t.isSound = true) (hne : names ≠ [])
    (hentry : (t.lookup? (place ++ names)).isSome = true) :
    t.lookup? place = some .directory := by
  cases names with
  | nil => exact absurd rfl hne
  | cons name rest =>
    have hnext : (t.lookup? ((place ++ [name]) ++ rest)).isSome = true := by
      rw [List.append_assoc]
      exact hentry
    exact (parent_of_isSound h (isSome_above h hnext)).1

/-- There is no file above a directory of a sound tree, nor at it. -/
theorem not_isBlocked_of_directory (h : t.isSound = true)
    (hdirectory : t.lookup? place = some .directory) : ¬ t.IsBlocked place := by
  rintro ⟨above, ⟨names, rfl⟩, hfile⟩
  obtain ⟨content, hcontent⟩ := isFileAt_iff.mp hfile
  cases names with
  | nil =>
    rw [List.append_nil, hcontent] at hdirectory
    cases hdirectory
  | cons name rest =>
    have habove := directory_above h (List.cons_ne_nil name rest) (by
      rw [hdirectory, Option.isSome_some])
    rw [hcontent] at habove
    cases habove

/-- A file in the way of something further down is in the way there or at the place itself. -/
theorem isBlocked_append_iff :
    t.IsBlocked (place ++ [name]) ↔ t.IsBlocked place ∨ t.isFileAt (place ++ [name]) = true := by
  unfold IsBlocked
  -- a prefix of the longer place is that place itself or a prefix of the shorter one
  constructor
  · rintro ⟨above, habove, hfile⟩
    rcases List.prefix_concat_iff.mp habove with rfl | habove
    · exact Or.inr hfile
    · exact Or.inl ⟨above, habove, hfile⟩
  · rintro (⟨above, habove, hfile⟩ | hfile)
    · exact ⟨above, habove.trans (List.prefix_append _ _), hfile⟩
    · exact ⟨place ++ [name], List.prefix_rfl, hfile⟩

/-- Where nothing stands, nothing further down is in the way. -/
theorem not_isBlocked_below (h : t.isSound = true) (hnone : t.lookup? place = none)
    (hfree : ¬ t.IsBlocked place) (names : List String) : ¬ t.IsBlocked (place ++ names) := by
  rintro ⟨above, habove, hfile⟩
  rcases List.prefix_or_prefix_of_prefix habove (List.prefix_append place names) with
    hup | ⟨between, rfl⟩
  · exact hfree ⟨above, hup, hfile⟩
  · obtain ⟨content, hcontent⟩ := isFileAt_iff.mp hfile
    rw [nothing_below h hnone between] at hcontent
    cases hcontent

/-- Nothing stands below a file of a sound tree. -/
theorem nothing_below_file (h : t.isSound = true) (hfile : t.isFileAt place = true)
    (hne : names ≠ []) : t.lookup? (place ++ names) = none := by
  obtain ⟨content, hcontent⟩ := isFileAt_iff.mp hfile
  -- something below would need a directory where the file stands
  cases hentry : t.lookup? (place ++ names) with
  | none => rfl
  | some entry =>
    have habove := directory_above h hne (by rw [hentry, Option.isSome_some])
    rw [hcontent] at habove
    cases habove

/-- A place further down is not above. -/
theorem not_prefix_of_append (hne : names ≠ []) : ¬ place ++ names <+: place := by
  intro hbelow
  have hlength := hbelow.length_le
  have hpos := List.length_pos_iff.mpr hne
  rw [List.length_append] at hlength
  omega

/-! ## Where plain names lead to -/

/-- From where nothing stands, no names lead anywhere. -/
theorem walk_of_none (hnone : t.lookup? here = none) (names : List String) :
    t.walk here names = .error .missing := by
  cases names with
  | nil => simp only [walk, hnone, Option.isSome_none, Bool.false_eq_true, if_false]
  | cons name rest => simp only [walk, step, hnone]

/-- From a file, names lead nowhere. -/
theorem walk_of_file (hfile : t.isFileAt here = true) (hne : names ≠ []) :
    t.walk here names = .error .notDirectory := by
  obtain ⟨content, hcontent⟩ := isFileAt_iff.mp hfile
  cases names with
  | nil => exact absurd rfl hne
  | cons name rest => simp only [walk, step, hcontent]

/-- All that plain names can lead to from a directory of a sound tree: something that stands where
they spell, a file in the way, or nothing. -/
theorem walk_cases (h : t.isSound = true) (hhere : t.lookup? here = some .directory)
    (hnames : ∀ name ∈ names, IsPlain name) :
    ((t.lookup? (here ++ names)).isSome = true ∧ t.walk here names = .ok (here ++ names)) ∨
    (t.lookup? (here ++ names) = none ∧ t.IsBlocked (here ++ names) ∧
      t.walk here names = .error .notDirectory) ∨
    (t.lookup? (here ++ names) = none ∧ ¬ t.IsBlocked (here ++ names) ∧
      t.walk here names = .error .missing) := by
  -- the step decides by what stands at the next place, and only a directory is gone through
  induction names generalizing here with
  | nil =>
    refine Or.inl ?_
    rw [List.append_nil, hhere]
    exact ⟨rfl, by simp only [walk, hhere, Option.isSome_some, if_true]⟩
  | cons name rest ih =>
    obtain ⟨hname, hrest⟩ := List.forall_mem_cons.mp hnames
    have hwalk : t.walk here (name :: rest) = t.walk (here ++ [name]) rest := by
      simp only [walk, step_of_plain hhere hname]
    rw [hwalk, ← List.singleton_append, ← List.append_assoc]
    cases hnext : t.lookup? (here ++ [name]) with
    | none =>
      have hfree : ¬ t.IsBlocked (here ++ [name]) := by
        rw [isBlocked_append_iff, not_or]
        exact ⟨not_isBlocked_of_directory h hhere, by simp [isFileAt, hnext]⟩
      exact Or.inr (Or.inr ⟨nothing_below h hnext rest, not_isBlocked_below h hnext hfree rest,
        walk_of_none hnext rest⟩)
    | some entry =>
      cases entry with
      | directory => exact ih hnext hrest
      | file content =>
        have hfile : t.isFileAt (here ++ [name]) = true := isFileAt_iff.mpr ⟨content, hnext⟩
        by_cases hempty : rest = []
        · -- the file is where the names lead to
          subst hempty
          rw [List.append_nil, hnext]
          exact Or.inl ⟨rfl, by simp only [walk, hnext, Option.isSome_some, if_true]⟩
        · exact Or.inr (Or.inl ⟨nothing_below_file h hfile hempty,
            ⟨here ++ [name], List.prefix_append _ _, hfile⟩, walk_of_file hfile hempty⟩)

/-! ## Paths -/

/-- All that a path with plain names above its last one can name in a sound tree: a place in a
directory, or none as a file is in the way or a directory is missing. -/
theorem target_cases (h : t.isSound = true)
    (hfault : pathFault? ⟨anchor, front ++ [name]⟩ = none) (hfront : ∀ name ∈ front, IsPlain name) :
    (t.lookup? (t.spelled ⟨anchor, front⟩) = some .directory ∧
      t.target ⟨anchor, front ++ [name]⟩ = t.step (t.spelled ⟨anchor, front⟩) name) ∨
    (t.IsBlocked (t.spelled ⟨anchor, front⟩) ∧
      t.target ⟨anchor, front ++ [name]⟩ = .error .notDirectory) ∨
    (t.lookup? (t.spelled ⟨anchor, front⟩) = none ∧ ¬ t.IsBlocked (t.spelled ⟨anchor, front⟩) ∧
      t.target ⟨anchor, front ++ [name]⟩ = .error .missing) := by
  have hstart : t.lookup? (t.start ⟨anchor, front⟩) = some .directory := directory_start h _
  have hrefused : ∀ fault, t.walk (t.start ⟨anchor, front⟩) front = .error fault →
      t.target ⟨anchor, front ++ [name]⟩ = .error fault := by
    intro fault hwalk
    have hwalk : t.walk (t.start ⟨anchor, front ++ [name]⟩) front = .error fault := hwalk
    simp only [target, hfault, List.getLast?_concat, List.dropLast_concat, hwalk]
  have hreached : ∀ parent, t.walk (t.start ⟨anchor, front⟩) front = .ok parent →
      t.target ⟨anchor, front ++ [name]⟩ = t.step parent name := by
    intro parent hwalk
    have hwalk : t.walk (t.start ⟨anchor, front ++ [name]⟩) front = .ok parent := hwalk
    simp only [target, hfault, List.getLast?_concat, List.dropLast_concat, hwalk]
  rcases walk_cases h hstart hfront with
    ⟨hsome, hwalk⟩ | ⟨-, hblocked, hwalk⟩ | ⟨hnone, hfree, hwalk⟩
  · rw [hreached _ hwalk]
    cases hentry : t.lookup? (t.spelled ⟨anchor, front⟩) with
    | none =>
      rw [spelled] at hentry
      rw [hentry] at hsome
      cases hsome
    | some entry =>
      cases entry with
      | directory => exact Or.inl ⟨rfl, rfl⟩
      | file content =>
        -- the file is what the last name is looked for in
        refine Or.inr (Or.inl ⟨⟨_, List.prefix_rfl, isFileAt_iff.mpr ⟨content, hentry⟩⟩, ?_⟩)
        rw [spelled] at hentry
        simp only [step, hentry]
  · exact Or.inr (Or.inl ⟨hblocked, hrefused _ hwalk⟩)
  · exact Or.inr (Or.inr ⟨hnone, hfree, hrefused _ hwalk⟩)

/-- A path with one more name spells the place of that name. -/
theorem spelled_concat (t : FileTree) (anchor : Anchor) (front : List String) (name : String) :
    t.spelled ⟨anchor, front ++ [name]⟩ = t.spelled ⟨anchor, front⟩ ++ [name] :=
  (List.append_assoc ..).symm

/-- A path with plain names leads to a directory of a sound tree exactly when one stands where it
spells. -/
theorem isDirectory_iff_of_plain (h : t.isSound = true) (hfault : pathFault? path = none)
    (hnames : ∀ name ∈ path.parts, IsPlain name) :
    t.isDirectory path = true ↔ t.lookup? (t.spelled path) = some .directory := by
  rw [isDirectory_iff]
  unfold locate
  rw [hfault]
  rcases walk_cases h (directory_start h path) hnames with
    ⟨-, hwalk⟩ | ⟨hnone, -, hwalk⟩ | ⟨hnone, -, hwalk⟩
  · simp [hwalk, spelled]
  · simp [hwalk, spelled, hnone]
  · simp [hwalk, spelled, hnone]

end FileTree

end OrmMapping
