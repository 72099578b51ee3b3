import OrmMapping.Proofs.Files.Contents
import OrmMapping.Proofs.Files.Directories

/-!
# Directories of their own

Writing into a directory changes what stands below it, and makes directories on the way to it. It
does not depend on anything else: in two trees that are alike in that directory, and have the same
files on the way to it, it does the same. Writing into another directory, neither above nor below,
leaves the trees alike.

* `Alike`: two trees that are alike in a directory;
* `Alike.writeIn`: writing into that directory in both;
* `Inside`, `writeIn_inside`: where writing into a directory changes anything;
* `Alike.of_inside`: writing into another directory in one of them.
-/

namespace OrmMapping

namespace FileTree

/-- Two trees that are alike in a directory, the second one grown from the first elsewhere: the same
stands below it, and the same files are on the way to it. -/
structure Alike (top : Place) (v u : FileTree) : Prop where
  grows : v.Grows u
  below : ∀ names, u.lookup? (top ++ names) = v.lookup? (top ++ names)
  above : ∀ place, place <+: top → u.isFileAt place = v.isFileAt place

/-- A tree after changes that are all below a directory, but for directories on the way to it. -/
structure Inside (top : Place) (u u' : FileTree) : Prop where
  grows : u.Grows u'
  outside : ∀ place, ¬ place <+: top → ¬ top <+: place → u'.lookup? place = u.lookup? place
  above : ∀ place, place <+: top → u'.isFileAt place = u.isFileAt place

variable {top other place : Place} {t t' u u' v v' : FileTree} {directory path : Path}
  {name : String} {names : List String} {content : List UInt8} {entry : FileEntry}

/-- Whether a file stands at a place counts on what stands there only. -/
theorem isFileAt_of_lookup?_eq (h : u.lookup? place = v.lookup? place) :
    u.isFileAt place = v.isFileAt place := by
  unfold isFileAt
  rw [h]

/-! ## Alike trees -/

/-- Every tree is alike to itself. -/
theorem Alike.refl (top : Place) (t : FileTree) : Alike top t t :=
  ⟨.refl t, fun _ => rfl, fun _ _ => rfl⟩

/-- What stands at the directory `top` itself is the same in both trees: the names below it may be
none. -/
theorem Alike.lookup?_top (h : Alike top v u) : u.lookup? top = v.lookup? top := by
  have hbelow := h.below []
  rw [List.append_nil] at hbelow
  exact hbelow

/-- A path spells the same place in both. -/
theorem Alike.spelled (h : Alike top v u) (path : Path) : u.spelled path = v.spelled path := by
  rw [FileTree.spelled, FileTree.spelled, h.grows.start]

/-- A file is in the way in the one tree exactly when one is in the other. -/
theorem Alike.isBlocked_iff (h : Alike top v u) : u.IsBlocked top ↔ v.IsBlocked top := by
  unfold IsBlocked
  refine exists_congr fun place => and_congr_right fun hplace => ?_
  rw [h.above place hplace]

/-- A path that leads below the directory in the first tree reads the same in both. -/
theorem Alike.read (h : Alike top v u) (hlocate : v.locate path = .ok (top ++ names)) :
    u.read path = v.read path := by
  simp only [FileTree.read, hlocate, h.grows.locate hlocate, h.below]

/-- Once the directory is there in both, with all on the way to it, they are still alike. -/
theorem Alike.opens (h : Alike top v u) (hv : Opens top v v') (hu : Opens top u u') :
    Alike top v' u' := by
  refine ⟨⟨?_, ?_, ?_⟩, ?_, ?_⟩
  · rw [hu.grows.workingDirectory, hv.grows.workingDirectory, h.grows.workingDirectory]
  · intro place hdirectory
    -- on the way there are directories in both now, and elsewhere nothing has changed
    by_cases hplace : place <+: top
    · exact hu.above place hplace
    · rw [hv.others place hplace] at hdirectory
      exact hu.grows.directory place (h.grows.directory place hdirectory)
  · intro place content hfile
    by_cases hplace : place <+: top
    · rw [hv.above place hplace] at hfile
      cases hfile
    · rw [hv.others place hplace] at hfile
      rw [hu.others place hplace]
      exact h.grows.file place content hfile
  · intro names
    by_cases hempty : names = []
    · rw [hempty, List.append_nil, hu.above top List.prefix_rfl, hv.above top List.prefix_rfl]
    · rw [hu.others _ (not_prefix_of_append hempty), hv.others _ (not_prefix_of_append hempty),
        h.below]
  · intro place hplace
    exact isFileAt_of_lookup?_eq ((hu.above place hplace).trans (hv.above place hplace).symm)

/-- The same `entry` put below the directory in both leaves them alike. -/
theorem Alike.put (h : Alike top v u) (hne : names ≠ [])
    (hplace : v.lookup? (top ++ names) ≠ some .directory) (entry : FileEntry) :
    Alike top (v.put (top ++ names) entry) (u.put (top ++ names) entry) := by
  have hplace' : u.lookup? (top ++ names) ≠ some .directory := by
    rw [h.below]
    exact hplace
  refine ⟨⟨h.grows.workingDirectory, ?_, ?_⟩, ?_, ?_⟩
  · intro place hdirectory
    by_cases heq : place = top ++ names
    · rw [heq, lookup?_put_self hplace] at hdirectory
      rw [heq, lookup?_put_self hplace', hdirectory]
    · rw [lookup?_put_of_ne heq] at hdirectory ⊢
      exact h.grows.directory place hdirectory
  · intro place content hfile
    by_cases heq : place = top ++ names
    · rw [heq, lookup?_put_self hplace] at hfile
      exact ⟨content, by rw [heq, lookup?_put_self hplace', hfile]⟩
    · rw [lookup?_put_of_ne heq] at hfile ⊢
      exact h.grows.file place content hfile
  · intro others
    by_cases heq : top ++ others = top ++ names
    · rw [heq, lookup?_put_self hplace, lookup?_put_self hplace']
    · rw [lookup?_put_of_ne heq, lookup?_put_of_ne heq, h.below]
  · intro place hbelow
    have hother : place ≠ top ++ names := by
      rintro rfl
      exact not_prefix_of_append hne hbelow
    rw [isFileAt_of_lookup?_eq (lookup?_put_of_ne hother _),
      isFileAt_of_lookup?_eq (lookup?_put_of_ne hother _), h.above place hbelow]

/-! ## Writing into a directory -/

variable {front : List String} {anchor : Anchor}

/-- A step counts on what stands at its start only. -/
theorem step_of_lookup?_eq (h : u.lookup? place = v.lookup? place) (name : String) :
    u.step place name = v.step place name := by
  unfold step
  rw [h]

/-- What a path into a directory names, once the directory is there, is decided by its last name. -/
theorem target_of_directory (h : t.isSound = true)
    (hfault : pathFault? ⟨anchor, front ++ [name]⟩ = none)
    (hfront : ∀ name ∈ front, IsPlain name)
    (hdirectory : t.lookup? (t.spelled ⟨anchor, front⟩) = some .directory) :
    t.target ⟨anchor, front ++ [name]⟩ = t.step (t.spelled ⟨anchor, front⟩) name := by
  rcases target_cases h hfault hfront with ⟨-, htarget⟩ | ⟨hblocked, -⟩ | ⟨hnone, -⟩
  · exact htarget
  · exact absurd hblocked (not_isBlocked_of_directory h hdirectory)
  · rw [hdirectory] at hnone
    cases hnone

/-- Writing a file into the directory, once it is there in both, fails in both in the same way, or
puts the same file into it. -/
theorem Alike.write (h : Alike top v u) (hv : v.isSound = true) (hu : u.isSound = true)
    (hfront : ∀ name ∈ front, IsPlain name) (hname : name ≠ up)
    (htop : v.spelled ⟨anchor, front⟩ = top) (hdirectory : v.lookup? top = some .directory) :
    (∃ e, v.write ⟨anchor, front ++ [name]⟩ content = .error e ∧
      u.write ⟨anchor, front ++ [name]⟩ content = .error e) ∨
    (v.lookup? (top ++ [name]) ≠ some .directory ∧
      v.write ⟨anchor, front ++ [name]⟩ content = .ok (v.put (top ++ [name]) (.file content)) ∧
      u.write ⟨anchor, front ++ [name]⟩ content = .ok (u.put (top ++ [name]) (.file content))) := by
  have htop' : u.spelled ⟨anchor, front⟩ = top := (h.spelled _).trans htop
  -- the path names the same place in both, or is refused alike
  have htarget : u.target ⟨anchor, front ++ [name]⟩ = v.target ⟨anchor, front ++ [name]⟩ ∧
      ∀ place, v.target ⟨anchor, front ++ [name]⟩ = .ok place → place = top ++ [name] := by
    cases hfault : pathFault? ⟨anchor, front ++ [name]⟩ with
    | some fault =>
      simp only [target, hfault, true_and]
      intro place hplace
      cases hplace
    | none =>
      rw [target_of_directory hv hfault hfront (by rw [htop, hdirectory]),
        target_of_directory hu hfault hfront (by rw [htop', h.lookup?_top, hdirectory]),
        htop, htop']
      refine ⟨step_of_lookup?_eq h.lookup?_top name, fun place hplace => ?_⟩
      rw [step_eq_ok_iff hdirectory, if_neg (by simpa using hname)] at hplace
      exact hplace.2
  obtain ⟨heq, hplace⟩ := htarget
  unfold FileTree.write
  rw [heq]
  cases hv : v.target ⟨anchor, front ++ [name]⟩ with
  | error fault => exact Or.inl ⟨_, rfl, rfl⟩
  | ok place =>
    obtain rfl := hplace place hv
    dsimp only
    rw [h.below]
    cases hentry : v.lookup? (top ++ [name]) with
    | none => exact Or.inr ⟨by simp, rfl, rfl⟩
    | some entry =>
      cases entry with
      | directory => exact Or.inl ⟨_, rfl, rfl⟩
      | file old => exact Or.inr ⟨by simp, rfl, rfl⟩

/-- Making the directory fails in both in the same way and makes nothing, or it is there in both. -/
theorem Alike.makeDirectories (h : Alike top v u) (hv : v.isSound = true) (hu : u.isSound = true)
    (hnames : ∀ name ∈ directory.parts, IsPlain name) (htop : v.spelled directory = top) :
    (∃ e, v.makeDirectories directory = ⟨v, some e⟩ ∧
      u.makeDirectories directory = ⟨u, some e⟩) ∨
    ((v.makeDirectories directory).error? = none ∧ (u.makeDirectories directory).error? = none ∧
      Opens top v (v.makeDirectories directory).tree ∧
      Opens top u (u.makeDirectories directory).tree) := by
  have htop' : u.spelled directory = top := (h.spelled directory).trans htop
  cases hfault : pathFault? directory with
  | some fault =>
    exact Or.inl ⟨_, makeDirectories_of_pathFault? v hfault, makeDirectories_of_pathFault? u hfault⟩
  | none =>
    by_cases hblocked : v.IsBlocked top
    · have hmade := makeDirectories_of_blocked hv hfault hnames (htop ▸ hblocked)
      have hmade' := makeDirectories_of_blocked hu hfault hnames
        (htop' ▸ h.isBlocked_iff.mpr hblocked)
      have hsame : u.blockedFault top = v.blockedFault top := by
        unfold blockedFault
        rw [h.above top List.prefix_rfl]
      rw [htop] at hmade
      rw [htop', hsame] at hmade'
      exact Or.inl ⟨_, hmade, hmade'⟩
    · have hopens := makeDirectories_opens hv hfault hnames (htop ▸ hblocked)
      have hopens' := makeDirectories_opens hu hfault hnames
        (htop' ▸ fun hother => hblocked (h.isBlocked_iff.mp hother))
      rw [htop] at hopens
      rw [htop'] at hopens'
      exact Or.inr ⟨hopens.1, hopens'.1, hopens.2, hopens'.2⟩

/-- Writing a file into the directory, which is made first, ends in both in the same way and leaves
them alike. -/
theorem Alike.writeIn (h : Alike top v u) (hv : v.isSound = true) (hu : u.isSound = true)
    (hnames : ∀ name ∈ directory.parts, IsPlain name) (hname : name ≠ up)
    (htop : v.spelled directory = top) (content : List UInt8) :
    (u.writeIn directory ⟨directory.anchor, directory.parts ++ [name]⟩ content).error? =
        (v.writeIn directory ⟨directory.anchor, directory.parts ++ [name]⟩ content).error? ∧
      Alike top (v.writeIn directory ⟨directory.anchor, directory.parts ++ [name]⟩ content).tree
        (u.writeIn directory ⟨directory.anchor, directory.parts ++ [name]⟩ content).tree := by
  rcases h.makeDirectories hv hu hnames htop with
    ⟨e, hmade, hmade'⟩ | ⟨herror, herror', hopens, hopens'⟩
  · simp only [FileTree.writeIn, hmade, hmade']
    exact ⟨trivial, h⟩
  · have halike := h.opens hopens hopens'
    have htop1 : (v.makeDirectories directory).tree.spelled ⟨directory.anchor, directory.parts⟩ =
        top := by
      rw [← htop, FileTree.spelled, FileTree.spelled, hopens.grows.start]
    simp only [FileTree.writeIn, herror, herror']
    rcases halike.write hopens.sound hopens'.sound hnames hname htop1
      (hopens.above top List.prefix_rfl) with ⟨e, hwrite, hwrite'⟩ | ⟨hplace, hwrite, hwrite'⟩
    · rw [hwrite, hwrite']
      exact ⟨rfl, halike⟩
    · rw [hwrite, hwrite']
      exact ⟨rfl, halike.put (List.cons_ne_nil name []) hplace _⟩

/-! ## Writing elsewhere -/

/-- Every tree is itself without a change. -/
theorem Inside.refl (top : Place) (t : FileTree) : Inside top t t :=
  ⟨.refl t, fun _ _ _ => rfl, fun _ _ => rfl⟩

/-- Changes in two goes are changes inside. -/
theorem Inside.trans {u'' : FileTree} (h : Inside top u u') (h' : Inside top u' u'') :
    Inside top u u'' := by
  refine ⟨h.grows.trans h'.grows, ?_, ?_⟩
  · intro place hup hdown
    rw [h'.outside place hup hdown, h.outside place hup hdown]
  · intro place hplace
    rw [h'.above place hplace, h.above place hplace]

/-- Making a directory, where no file is in the way, changes nothing outside but the way to it. -/
theorem Opens.inside (h : Opens top u u') (hfree : ¬ u.IsBlocked top) : Inside top u u' := by
  refine ⟨h.grows, fun place hup _ => h.others place hup, fun place hplace => ?_⟩
  have hfile : u.isFileAt place = false := by
    rw [Bool.eq_false_iff]
    exact fun hfile => hfree ⟨place, hplace, hfile⟩
  rw [hfile, isFileAt, h.above place hplace]

/-- A file put into the directory is a change inside. -/
theorem inside_put_file (hplace : u.lookup? (top ++ [name]) ≠ some .directory) :
    Inside top u (u.put (top ++ [name]) (.file content)) := by
  refine ⟨grows_put_file hplace, ?_, ?_⟩
  · intro place _ hdown
    have hne : place ≠ top ++ [name] := by
      rintro rfl
      exact hdown (List.prefix_append _ _)
    exact lookup?_put_of_ne hne _
  · intro place hbelow
    have hne : place ≠ top ++ [name] := by
      rintro rfl
      exact not_prefix_of_append (List.cons_ne_nil name []) hbelow
    exact isFileAt_of_lookup?_eq (lookup?_put_of_ne hne _)

/-- Writing a file into `directory` changes what is below it, but for the directories on the way. -/
theorem writeIn_inside (h : u.isSound = true) (hnames : ∀ name ∈ directory.parts, IsPlain name)
    (hname : name ≠ up) (content : List UInt8) :
    Inside (u.spelled directory) u
      (u.writeIn directory ⟨directory.anchor, directory.parts ++ [name]⟩ content).tree := by
  cases hfault : pathFault? directory with
  | some fault =>
    simp only [FileTree.writeIn, makeDirectories_of_pathFault? u hfault]
    exact .refl _ u
  | none =>
    -- with a file in the way nothing is made or written
    by_cases hblocked : u.IsBlocked (u.spelled directory)
    · simp only [FileTree.writeIn, makeDirectories_of_blocked h hfault hnames hblocked]
      exact .refl _ u
    · obtain ⟨herror, hopens⟩ := makeDirectories_opens h hfault hnames hblocked
      have hinside := hopens.inside hblocked
      have htop : (u.makeDirectories directory).tree.spelled ⟨directory.anchor, directory.parts⟩ =
          u.spelled directory := by
        rw [FileTree.spelled, FileTree.spelled, hopens.grows.start]
      simp only [FileTree.writeIn, herror]
      rcases (Alike.refl _ _).write hopens.sound hopens.sound hnames hname htop
        (hopens.above _ List.prefix_rfl) with ⟨e, hwrite, -⟩ | ⟨hplace, hwrite, -⟩
      · rw [hwrite]
        exact hinside
      · rw [hwrite]
        exact hinside.trans (inside_put_file hplace)

/-- Two trees stay alike in a directory when one of them changes inside another one, if neither of
the two contains the other. -/
theorem Alike.of_inside (h : Alike top v u) (hinside : Inside other u u') (hup : ¬ top <+: other)
    (hdown : ¬ other <+: top) : Alike top v u' := by
  refine ⟨h.grows.trans hinside.grows, fun names => ?_, fun place hplace => ?_⟩
  · rw [← h.below]
    refine hinside.outside _ (fun hbelow => hup ((List.prefix_append _ _).trans hbelow)) ?_
    intro hbelow
    -- a place below both would put one of the directories below the other
    rcases List.prefix_or_prefix_of_prefix hbelow (List.prefix_append top names) with hq | hq
    · exact hdown hq
    · exact hup hq
  · rw [← h.above place hplace]
    by_cases hother : place <+: other
    · exact hinside.above place hother
    · exact isFileAt_of_lookup?_eq
        (hinside.outside place hother fun hbelow => hdown (hbelow.trans hplace))

end FileTree

end OrmMapping
