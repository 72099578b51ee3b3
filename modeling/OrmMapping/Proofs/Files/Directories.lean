import OrmMapping.Proofs.Files.Ways

/-!
# How directories are made

Making the directory of a plain path in a sound tree fails for a file in the way and for nothing
else. Otherwise it makes a directory of every place on the way, whichever of them were there before,
and the tree stays sound.

* `isSound_of_writeIn`: trees stay sound;
* `makeDirectories_of_pathFault?`, `makeDirectories_of_blocked`: when no directory is made;
* `Opens`, `makeDirectories_opens`: what is there when one is made.
-/

namespace OrmMapping

namespace FileTree

variable {t t' : FileTree} {place : Place} {name : String} {names front : List String}
  {path : Path} {content : List UInt8} {anchor : Anchor} {fault : FileFault}

/-! ## Trees stay sound -/

/-- In a directory, anything may stand that has a plain name. -/
theorem allows_concat (hdirectory : t.lookup? place = some .directory) (hname : IsPlain name) :
    t.allows (place ++ [name]) = true := by
  unfold allows
  rw [List.getLast?_concat, List.dropLast_concat, hdirectory]
  simp only [BEq.rfl, Bool.true_and, Bool.and_eq_true, bne_iff_ne, decide_eq_true_eq]
  exact hname

/-- A place stays allowed while directories stay where they are. -/
theorem allows_of_directories
    (hkeeps : ∀ p, t.lookup? p = some .directory → t'.lookup? p = some .directory)
    (h : t.allows place = true) : t'.allows place = true := by
  unfold allows at h ⊢
  split
  · rfl
  · next name hlast =>
    rw [hlast] at h
    simp only [Bool.and_eq_true, beq_iff_eq] at h ⊢
    exact ⟨⟨hkeeps _ h.1.1, h.1.2⟩, h.2⟩

/-- Something put at a place that is allowed, where no directory stands, keeps a tree sound. -/
theorem isSound_put (h : t.isSound = true) (hplace : t.lookup? place ≠ some .directory)
    (hallowed : t.allows place = true) (entry : FileEntry) :
    (t.put place entry).isSound = true := by
  have hkeeps : ∀ p, t.lookup? p = some .directory →
      (t.put place entry).lookup? p = some .directory := by
    intro p hp
    have hne : p ≠ place := by
      rintro rfl
      exact hplace hp
    rw [lookup?_put_of_ne hne, hp]
  have hall : ∀ p ∈ t.keys, t.allows p = true := by
    unfold isSound at h
    rw [Bool.and_eq_true, List.all_eq_true] at h
    intro p hp
    obtain ⟨x, hx, rfl⟩ := List.mem_map.mp hp
    exact h.2 x hx
  obtain ⟨new, hkeys, hnew⟩ := keys_put t place entry
  unfold isSound
  rw [Bool.and_eq_true, List.all_eq_true, beq_iff_eq]
  refine ⟨hkeeps _ (directory_of_isSound h), fun x hx => ?_⟩
  have hmem : x.1 ∈ (t.put place entry).keys := List.mem_map_of_mem hx
  rw [hkeys] at hmem
  refine allows_of_directories hkeeps ?_
  rcases List.mem_append.mp hmem with hold | hmem
  · exact hall _ hold
  · rw [hnew _ hmem]
    exact hallowed

/-- In a sound tree, a path names a directory or a place where something may stand. -/
theorem allows_of_target (h : t.isSound = true) (htarget : t.target path = .ok place)
    (hplace : t.lookup? place ≠ some .directory) : t.allows place = true := by
  unfold target at htarget
  split at htarget
  · cases htarget
  · cases htarget
    exact absurd (directory_start h path) hplace
  · next name _ _ =>
    split at htarget
    · cases htarget
    · next parent hparent =>
      have hdirectory := directory_of_step htarget
      rw [step_eq_ok_iff hdirectory] at htarget
      split at htarget
      · -- a step up from a directory leads to one
        exfalso
        refine hplace ?_
        rw [htarget]
        rcases List.eq_nil_or_concat parent with rfl | ⟨above, last, rfl⟩
        · rfl
        · rw [List.concat_eq_append] at hdirectory ⊢
          rw [List.dropLast_concat]
          exact (parent_of_isSound h (by rw [hdirectory, Option.isSome_some])).1
      · next hname =>
        obtain ⟨hshort, rfl⟩ := htarget
        exact allows_concat hdirectory ⟨by simpa using hname, hshort⟩

/-- Writing a file keeps a tree sound. -/
theorem isSound_of_write (h : t.isSound = true) (hwrite : t.write path content = .ok t') :
    t'.isSound = true := by
  obtain ⟨place, htarget, hplace, rfl⟩ := write_eq_ok hwrite
  exact isSound_put h hplace (allows_of_target h htarget hplace) _

/-- Making a directory keeps a tree sound. -/
theorem isSound_of_ensureDirectory (h : t.isSound = true)
    (hmade : t.ensureDirectory path = .ok t') : t'.isSound = true := by
  unfold ensureDirectory at hmade
  split at hmade
  · next made hmake =>
    cases hmade
    unfold makeDirectory at hmake
    split at hmake
    · cases hmake
    · next place htarget =>
      split at hmake
      · cases hmake
      · next hfree =>
        cases hmake
        rw [Bool.or_eq_true, not_or] at hfree
        have hplace : t.lookup? place ≠ some .directory := by
          intro hdirectory
          exact hfree.1 (by rw [hdirectory, Option.isSome_some])
        exact isSound_put h hplace (allows_of_target h htarget hplace) _
  · split at hmade
    · cases hmade
      exact h
    · cases hmade

/-- The change that `ensureDirectory` amounts to leaves a sound tree, whether it fails or not. -/
theorem isSound_of_change (h : t.isSound = true) (path : Path) :
    (Change.of t (t.ensureDirectory path)).tree.isSound = true := by
  cases hmade : t.ensureDirectory path with
  | error e => exact h
  | ok made => exact isSound_of_ensureDirectory h hmade

/-- Making directories keeps a tree sound, also those that were made before a failure. -/
theorem isSound_of_makeDirectoriesOf (h : t.isSound = true) (anchor : Anchor)
    (names : List String) : (makeDirectoriesOf anchor t names).tree.isSound = true := by
  -- along the names in reverse: those above are made before, in a tree that stays sound
  induction names with
  | nil => exact isSound_of_change h _
  | cons name above ih =>
    simp only [makeDirectoriesOf]
    split
    · next made hmade => exact isSound_of_ensureDirectory h hmade
    · split
      · split
        · exact isSound_of_change ih _
        · exact ih
      · exact h

/-- Writing a file with its directory made first keeps a tree sound, whether it fails or not. -/
theorem isSound_of_writeIn (h : t.isSound = true) (directory path : Path)
    (content : List UInt8) : (t.writeIn directory path content).tree.isSound = true := by
  have hmade : (t.makeDirectories directory).tree.isSound = true :=
    isSound_of_makeDirectoriesOf h directory.anchor directory.parts.reverse
  unfold writeIn
  dsimp only
  split
  · exact hmade
  · cases hwrite : (t.makeDirectories directory).tree.write path content with
    | error e => exact hmade
    | ok written => exact isSound_of_write hmade hwrite

/-! ## Making directories -/

/-- A path above another is not longer, as far as it counts. -/
theorem utf8ByteSize_text_le (anchor : Anchor) (names more : List String) :
    (Path.text ⟨anchor, names⟩).utf8ByteSize ≤
      max 1 (Path.text ⟨anchor, names ++ more⟩).utf8ByteSize := by
  have hjoined := Text.utf8ByteSize_joinWith_le "/" names more
  have hwritten : (anchor.text ++ Text.joinWith "/" names).utf8ByteSize ≤
      (anchor.text ++ Text.joinWith "/" (names ++ more)).utf8ByteSize := by
    rw [String.utf8ByteSize_append, String.utf8ByteSize_append]
    omega
  unfold Path.text
  dsimp only
  split
  · -- a path that leads nowhere has one character
    exact Nat.le_max_left 1 _
  · split
    · next hempty =>
      rw [String.isEmpty_iff.mp hempty] at hwritten
      exact hwritten.trans (Nat.zero_le _)
    · exact hwritten.trans (Nat.le_max_right 1 _)

/-- A path above one that is not at fault is not at fault. -/
theorem pathFault?_of_concat (h : pathFault? ⟨anchor, names ++ [name]⟩ = none) :
    pathFault? ⟨anchor, names⟩ = none := by
  have hfree := nullFree_of_pathFault? h
  have habove : Path.NullFree ⟨anchor, names⟩ :=
    fun part hpart => hfree part (List.mem_append_left _ hpart)
  -- the text of the path above is no longer, but for the one character of a path that leads nowhere
  have hsize := utf8ByteSize_text_le anchor names [name]
  have hmax : 1 ≤ maxPathLength := by decide
  rw [pathFault?_of_nullFree hfree] at h
  rw [pathFault?_of_nullFree habove]
  split at h
  · cases h
  · next hshort => rw [if_neg (by omega)]

/-- A path at fault leads to no directory. -/
theorem isDirectory_of_pathFault? (hfault : pathFault? path = some fault) :
    t.isDirectory path = false := by
  simp [isDirectory, find?, locate, hfault]

/-- No directory is made for a path at fault, whatever the files; the fault is that of the path. -/
theorem ensureDirectory_of_pathFault? (hfault : pathFault? path = some fault) :
    t.ensureDirectory path = .error ⟨fault, path⟩ := by
  have hmade : t.makeDirectory path = .error fault := by
    simp only [makeDirectory, target, hfault]
  simp only [ensureDirectory, hmade, isDirectory_of_pathFault? hfault, Bool.and_false,
    Bool.false_eq_true, if_false]

/-- The fault of making a directory where a file is in the way. -/
def blockedFault (t : FileTree) (place : Place) : FileFault :=
  if t.isFileAt place then .exists else .notDirectory

/-- With a file in the way, or at the place itself, no directory is made; the fault is
`blockedFault`. -/
theorem ensureDirectory_of_blocked (h : t.isSound = true)
    (hfault : pathFault? ⟨anchor, front ++ [name]⟩ = none)
    (hfront : ∀ name ∈ front, IsPlain name) (hname : IsPlain name)
    (hblocked : t.IsBlocked (t.spelled ⟨anchor, front ++ [name]⟩)) :
    t.ensureDirectory ⟨anchor, front ++ [name]⟩ =
      .error ⟨t.blockedFault (t.spelled ⟨anchor, front ++ [name]⟩), ⟨anchor, front ++ [name]⟩⟩ := by
  have hnames : ∀ part ∈ front ++ [name], IsPlain part :=
    List.forall_mem_append.mpr ⟨hfront, List.forall_mem_singleton.mpr hname⟩
  have hnot : t.isDirectory ⟨anchor, front ++ [name]⟩ = false := by
    rw [Bool.eq_false_iff, ne_eq, isDirectory_iff_of_plain h hfault hnames]
    exact fun hdirectory => not_isBlocked_of_directory h hdirectory hblocked
  have hmade : t.makeDirectory ⟨anchor, front ++ [name]⟩ =
      .error (t.blockedFault (t.spelled ⟨anchor, front ++ [name]⟩)) := by
    rw [spelled_concat] at hblocked ⊢
    rw [isBlocked_append_iff] at hblocked
    unfold blockedFault
    rcases target_cases h hfault hfront with
      ⟨hdirectory, htarget⟩ | ⟨habove, htarget⟩ | ⟨hnone, hfree, htarget⟩
    · -- the file stands at the place itself
      have hfile := hblocked.resolve_left (not_isBlocked_of_directory h hdirectory)
      obtain ⟨content, hcontent⟩ := isFileAt_iff.mp hfile
      rw [step_of_plain hdirectory hname] at htarget
      simp only [makeDirectory, htarget, hcontent, Option.isSome_some, Bool.true_or, if_true, hfile]
    · have hfile : t.isFileAt (t.spelled ⟨anchor, front⟩ ++ [name]) = false := by
        rw [Bool.eq_false_iff, ne_eq, isFileAt_iff]
        rintro ⟨content, hcontent⟩
        have hdirectory := directory_above h (List.cons_ne_nil name []) (by
          rw [hcontent, Option.isSome_some])
        exact not_isBlocked_of_directory h hdirectory habove
      simp only [makeDirectory, htarget, hfile, Bool.false_eq_true, if_false]
    · have hfile := hblocked.resolve_left hfree
      rw [isFileAt, nothing_below h hnone] at hfile
      cases hfile
  simp only [ensureDirectory, hmade, hnot, Bool.and_false, Bool.false_eq_true, if_false]

/-- Where nothing stands yet, a directory is made in one that is there. -/
theorem ensureDirectory_of_parent (hfault : pathFault? ⟨anchor, front ++ [name]⟩ = none)
    (h : t.isSound = true) (hfront : ∀ name ∈ front, IsPlain name) (hname : IsPlain name)
    (hparent : t.lookup? (t.spelled ⟨anchor, front⟩) = some .directory)
    (hnone : t.lookup? (t.spelled ⟨anchor, front ++ [name]⟩) = none) :
    t.ensureDirectory ⟨anchor, front ++ [name]⟩ =
      .ok (t.put (t.spelled ⟨anchor, front ++ [name]⟩) .directory) := by
  have hlast : (some name == some up) = false := by
    rw [beq_eq_false_iff_ne]
    exact fun heq => hname.1 (Option.some.inj heq)
  rw [spelled_concat] at hnone ⊢
  rcases target_cases h hfault hfront with
    ⟨-, htarget⟩ | ⟨hblocked, -⟩ | ⟨hmissing, -⟩
  · rw [step_of_plain hparent hname] at htarget
    simp only [ensureDirectory, makeDirectory, htarget, hnone, List.getLast?_concat, hlast,
      Option.isSome_none, Bool.or_self, Bool.false_eq_true, if_false]
  · exact absurd hblocked (not_isBlocked_of_directory h hparent)
  · rw [hparent] at hmissing
    cases hmissing

/-- Where the directory above is missing, it is made first. -/
theorem ensureDirectory_of_missing (h : t.isSound = true)
    (hfault : pathFault? ⟨anchor, front ++ [name]⟩ = none)
    (hfront : ∀ name ∈ front, IsPlain name)
    (hparent : t.lookup? (t.spelled ⟨anchor, front⟩) = none)
    (hfree : ¬ t.IsBlocked (t.spelled ⟨anchor, front⟩)) :
    t.ensureDirectory ⟨anchor, front ++ [name]⟩ =
      .error ⟨.missing, ⟨anchor, front ++ [name]⟩⟩ := by
  rcases target_cases h hfault hfront with ⟨hdirectory, -⟩ | ⟨hblocked, -⟩ | ⟨-, -, htarget⟩
  · rw [hparent] at hdirectory
    cases hdirectory
  · exact absurd hblocked hfree
  · simp only [ensureDirectory, makeDirectory, htarget]
    rfl

/-- A tree after a directory was made with all that were missing above it: at every place on the way
there is one, and nothing else has changed. -/
structure Opens (top : Place) (t t' : FileTree) : Prop where
  sound : t'.isSound = true
  grows : t.Grows t'
  above : ∀ place, place <+: top → t'.lookup? place = some .directory
  others : ∀ place, ¬ place <+: top → t'.lookup? place = t.lookup? place

/-- Where there is a directory, there is one at every place on the way to it. -/
theorem opens_of_directory (h : t.isSound = true) (hdirectory : t.lookup? place = some .directory) :
    Opens place t t := by
  refine ⟨h, .refl t, ?_, fun _ _ => rfl⟩
  rintro above ⟨names, rfl⟩
  -- the directory itself, and what is above it
  by_cases hempty : names = []
  · rw [hempty, List.append_nil] at hdirectory
    exact hdirectory
  · exact directory_above h hempty (by rw [hdirectory, Option.isSome_some])

/-- Making the directory `name` below a place that is open opens it too. `hnone` says that nothing
stood there, `hname` that the name is one that a directory can have. -/
theorem Opens.concat (h : Opens place t t') (hnone : t'.lookup? (place ++ [name]) = none)
    (hname : IsPlain name) : Opens (place ++ [name]) t (t'.put (place ++ [name]) .directory) := by
  have hparent : t'.lookup? place = some .directory := h.above place List.prefix_rfl
  have hplace : t'.lookup? (place ++ [name]) ≠ some .directory := by
    rw [hnone]
    simp
  have hadds : t'.Adds (fun _ => True) (t'.put (place ++ [name]) .directory) :=
    adds_put_directory hnone
  refine ⟨isSound_put h.sound hplace (allows_concat hparent hname) _, h.grows.trans hadds.grows,
    ?_, ?_⟩
  · intro above habove
    rcases List.prefix_concat_iff.mp habove with rfl | habove
    · exact lookup?_put_self hplace _
    · exact hadds.grows.directory above (h.above above habove)
  · intro other hother
    have hne : other ≠ place ++ [name] := by
      rintro rfl
      exact hother List.prefix_rfl
    rw [lookup?_put_of_ne hne]
    exact h.others other fun hbelow => hother (hbelow.trans (List.prefix_append _ _))

/-- The step lemma: when the directory above is there, or was made, one more is made in it. -/
theorem Opens.ensureDirectory (h : Opens (t.spelled ⟨anchor, front⟩) t t')
    (hfault : pathFault? ⟨anchor, front ++ [name]⟩ = none) (hfront : ∀ name ∈ front, IsPlain name)
    (hname : IsPlain name) (hnone : t.lookup? (t.spelled ⟨anchor, front ++ [name]⟩) = none) :
    ∃ made, t'.ensureDirectory ⟨anchor, front ++ [name]⟩ = .ok made ∧
      Opens (t.spelled ⟨anchor, front ++ [name]⟩) t made := by
  have hspelled : t'.spelled ⟨anchor, front⟩ = t.spelled ⟨anchor, front⟩ := by
    rw [spelled, spelled, h.grows.start]
  rw [spelled_concat] at hnone ⊢
  have hnew : t'.lookup? (t.spelled ⟨anchor, front⟩ ++ [name]) = none := by
    rw [h.others _ (not_prefix_of_append (List.cons_ne_nil name [])), hnone]
  have hmade := ensureDirectory_of_parent hfault h.sound hfront hname
    (by rw [hspelled]; exact h.above _ List.prefix_rfl)
    (by rw [spelled_concat, hspelled]; exact hnew)
  rw [spelled_concat, hspelled] at hmade
  exact ⟨_, hmade, h.concat hnew hname⟩

/-- The run lemma: where no file is in the way, all directories on the way are made. The names come
in reverse. -/
theorem makeDirectoriesOf_opens (h : t.isSound = true) (anchor : Anchor)
    (hnames : ∀ name ∈ names, IsPlain name) (hfault : pathFault? ⟨anchor, names.reverse⟩ = none)
    (hfree : ¬ t.IsBlocked (t.spelled ⟨anchor, names.reverse⟩)) :
    (makeDirectoriesOf anchor t names).error? = none ∧
      Opens (t.spelled ⟨anchor, names.reverse⟩) t (makeDirectoriesOf anchor t names).tree := by
  induction names with
  | nil =>
    have hdirectory : t.lookup? (t.spelled ⟨anchor, []⟩) = some .directory := by
      rw [spelled, List.append_nil]
      exact directory_start h _
    have hthere : t.isDirectory ⟨anchor, []⟩ = true :=
      (isDirectory_iff_of_plain h hfault hnames).mpr hdirectory
    simp only [makeDirectoriesOf, ensureDirectory_again hthere]
    exact ⟨rfl, opens_of_directory h hdirectory⟩
  | cons name above ih =>
    obtain ⟨hname, habove⟩ := List.forall_mem_cons.mp hnames
    have hfront : ∀ part ∈ above.reverse, IsPlain part :=
      fun part hpart => habove part (List.mem_reverse.mp hpart)
    rw [List.reverse_cons] at hfault hfree ⊢
    have hparentFree : ¬ t.IsBlocked (t.spelled ⟨anchor, above.reverse⟩) := by
      intro hblocked
      rw [spelled_concat, isBlocked_append_iff] at hfree
      exact hfree (Or.inl hblocked)
    obtain ⟨herror, hopens⟩ := ih habove (pathFault?_of_concat hfault) hparentFree
    have hpath : (name :: above).reverse = above.reverse ++ [name] := List.reverse_cons
    simp only [makeDirectoriesOf, hpath]
    cases htop : t.lookup? (t.spelled ⟨anchor, above.reverse ++ [name]⟩) with
    | some entry =>
      cases entry with
      | file content =>
        exact absurd ⟨_, List.prefix_rfl, isFileAt_iff.mpr ⟨content, htop⟩⟩ hfree
      | directory =>
        -- it is there already
        have hall : ∀ part ∈ above.reverse ++ [name], IsPlain part :=
          List.forall_mem_append.mpr ⟨hfront, List.forall_mem_singleton.mpr hname⟩
        have hthere := (isDirectory_iff_of_plain h hfault hall).mpr htop
        simp only [ensureDirectory_again hthere]
        exact ⟨trivial, opens_of_directory h htop⟩
    | none =>
      cases hparent : t.lookup? (t.spelled ⟨anchor, above.reverse⟩) with
      | some entry =>
        cases entry with
        | file content =>
          exact absurd ⟨_, List.prefix_rfl, isFileAt_iff.mpr ⟨content, hparent⟩⟩ hparentFree
        | directory =>
          obtain ⟨made, hmade, hopened⟩ :=
            (opens_of_directory h hparent).ensureDirectory hfault hfront hname htop
          simp only [hmade]
          exact ⟨trivial, hopened⟩
      | none =>
        -- those above are made, and this one comes after them
        obtain ⟨made, hmade, hopened⟩ := hopens.ensureDirectory hfault hfront hname htop
        simp only [ensureDirectory_of_missing h hfault hfront hparent hparentFree, BEq.rfl,
          if_true, herror, hmade]
        exact ⟨rfl, hopened⟩

/-- An error other than that something is missing comes from the directory itself. -/
theorem makeDirectories_of_error {e : FileError} (hmade : t.ensureDirectory path = .error e)
    (hfault : e.fault ≠ .missing) : t.makeDirectories path = ⟨t, some e⟩ := by
  obtain ⟨anchor, parts⟩ := path
  unfold makeDirectories
  cases hnames : parts.reverse with
  | nil =>
    rw [List.reverse_eq_nil_iff.mp hnames] at hmade
    simp only [makeDirectoriesOf, hmade, Change.of]
  | cons name above =>
    have hpath : (name :: above).reverse = parts := by
      rw [← hnames, List.reverse_reverse]
    have hnot : (e.fault == .missing) = false := beq_eq_false_iff_ne.mpr hfault
    simp only [makeDirectoriesOf, hpath, hmade, hnot, Bool.false_eq_true, if_false]

/-- No path is at fault because something is missing. -/
theorem pathFault?_ne_missing (path : Path) : pathFault? path ≠ some .missing := by
  unfold pathFault?
  dsimp only
  split
  · simp
  · split <;> simp

/-- A directory whose path is at fault is not made, whatever the files. -/
theorem makeDirectories_of_pathFault? (t : FileTree) (hfault : pathFault? path = some fault) :
    t.makeDirectories path = ⟨t, some ⟨fault, path⟩⟩ := by
  refine makeDirectories_of_error (ensureDirectory_of_pathFault? hfault) ?_
  rintro rfl
  exact pathFault?_ne_missing path hfault

/-- A directory with a file in the way, or at its place, is not made, nor is anything above it. -/
theorem makeDirectories_of_blocked (h : t.isSound = true) (hfault : pathFault? path = none)
    (hnames : ∀ name ∈ path.parts, IsPlain name) (hblocked : t.IsBlocked (t.spelled path)) :
    t.makeDirectories path = ⟨t, some ⟨t.blockedFault (t.spelled path), path⟩⟩ := by
  obtain ⟨anchor, parts⟩ := path
  rcases List.eq_nil_or_concat parts with rfl | ⟨front, name, rfl⟩
  · -- a path starts in a directory
    refine absurd hblocked (not_isBlocked_of_directory h ?_)
    rw [spelled, List.append_nil]
    exact directory_start h _
  · rw [List.concat_eq_append] at hfault hblocked hnames ⊢
    obtain ⟨hfront, hname⟩ := List.forall_mem_append.mp hnames
    refine makeDirectories_of_error (ensureDirectory_of_blocked h hfault hfront
      (List.forall_mem_singleton.mp hname) hblocked) ?_
    unfold blockedFault
    dsimp only
    split <;> simp

/-- Where no file is in the way, the directory is there afterwards, with all above it, and nothing
else has changed. -/
theorem makeDirectories_opens (h : t.isSound = true) (hfault : pathFault? path = none)
    (hnames : ∀ name ∈ path.parts, IsPlain name) (hfree : ¬ t.IsBlocked (t.spelled path)) :
    (t.makeDirectories path).error? = none ∧
      Opens (t.spelled path) t (t.makeDirectories path).tree := by
  have hopens := makeDirectoriesOf_opens h path.anchor
    (fun name hname => hnames name (List.mem_reverse.mp hname))
    (by rw [List.reverse_reverse]; exact hfault)
    (by rw [List.reverse_reverse]; exact hfree)
  rw [List.reverse_reverse] at hopens
  exact hopens

end FileTree

end OrmMapping
