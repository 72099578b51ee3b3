import OrmMapping.Proofs.Files.Growth

/-!
# Sound file trees

In a file tree as a system keeps it, everything stands in a directory and has a name that a path can
spell, and the working directory is one. Below what is missing there is nothing, so that names lead
to whatever stands below a place, and a path without steps up leads to the place that it spells.

* `FileTree.isSound`: the condition, over the entries;
* `parent_of_isSound`, `isSome_above`: what stands above an entry;
* `walk_append`, `locate_join`: names and paths lead to what stands below;
* `lookup?_remove`, `isSound_remove`: what is left when something is removed;
* `eq_append_of_walk`, `exists_missing`: paths without steps up.
-/

namespace OrmMapping

namespace FileTree

/-- Whether something may stand at a place: in a directory, under a name that is not too long and is
not the step up. -/
def allows (t : FileTree) (place : Place) : Bool :=
  match place.getLast? with
  | none => true
  | some name =>
    t.lookup? place.dropLast == some .directory && name != up &&
      decide (name.utf8ByteSize ≤ maxNameLength)

/-- Whether a tree is one that a system keeps. -/
def isSound (t : FileTree) : Bool :=
  t.lookup? t.workingDirectory == some .directory && t.entries.all fun x => t.allows x.1

/-- The places where something was put. -/
def keys (t : FileTree) : List Place :=
  t.entries.map (·.1)

variable {t t' : FileTree} {place here : Place} {name : String} {names front : List String}
  {fault : FileFault}

/-! ## Entries -/

/-- Something is found at a place exactly when an entry has this place. -/
theorem isSome_lookup_iff {entries : List (Place × FileEntry)} :
    (entries.lookup place).isSome = true ↔ place ∈ entries.map (·.1) := by
  rw [List.lookup_isSome_iff, List.mem_map]
  exact exists_congr fun x => and_congr_right fun _ => by rw [beq_iff_eq, eq_comm]

/-- Where something stands, but for the top, something was put. -/
theorem mem_keys_of_isSome (hne : place ≠ []) (h : (t.lookup? place).isSome = true) :
    place ∈ t.keys := by
  cases place with
  | nil => exact absurd rfl hne
  | cons first rest => exact isSome_lookup_iff.mp h

/-- Where something was put, something stands. -/
theorem isSome_of_mem_keys (h : place ∈ t.keys) : (t.lookup? place).isSome = true := by
  cases place with
  | nil => rfl
  | cons first rest => exact isSome_lookup_iff.mpr h

/-- The working directory of a sound tree is a directory. -/
theorem directory_of_isSound (h : t.isSound = true) :
    t.lookup? t.workingDirectory = some .directory := by
  unfold isSound at h
  rw [Bool.and_eq_true, beq_iff_eq] at h
  exact h.1

/-- Every path starts in a directory of a sound tree. -/
theorem directory_start (h : t.isSound = true) (path : Path) :
    t.lookup? (t.start path) = some .directory := by
  unfold start
  split
  · exact directory_of_isSound h
  · rfl

/-- What stands in a sound tree stands in a directory, under a `name` that is neither the step up
nor too long. -/
theorem parent_of_isSound (h : t.isSound = true)
    (hentry : (t.lookup? (place ++ [name])).isSome = true) :
    t.lookup? place = some .directory ∧ name ≠ up ∧ name.utf8ByteSize ≤ maxNameLength := by
  unfold isSound at h
  rw [Bool.and_eq_true, List.all_eq_true] at h
  obtain ⟨x, hx, hplace⟩ := List.mem_map.mp (mem_keys_of_isSome (by simp) hentry)
  have hallowed := h.2 x hx
  rw [hplace, allows, List.getLast?_concat, List.dropLast_concat] at hallowed
  simpa [and_assoc] using hallowed

/-! ## Above and below -/

/-- In a sound tree something stands above whatever stands at a place. -/
theorem isSome_above (h : t.isSound = true) (hentry : (t.lookup? (place ++ names)).isSome = true) :
    (t.lookup? place).isSome = true := by
  -- the last name first: what stands at the end stands in a directory
  induction names generalizing place with
  | nil => simpa using hentry
  | cons name rest ih =>
    have hnext : (t.lookup? (place ++ [name])).isSome = true := by
      refine ih ?_
      rw [List.append_assoc]
      exact hentry
    rw [(parent_of_isSound h hnext).1, Option.isSome_some]

/-- Below what is missing there is nothing. -/
theorem nothing_below (h : t.isSound = true) (hnone : t.lookup? place = none)
    (names : List String) : t.lookup? (place ++ names) = none := by
  cases hentry : t.lookup? (place ++ names) with
  | none => rfl
  | some entry =>
    have habove := isSome_above h (by rw [hentry, Option.isSome_some])
    rw [hnone] at habove
    cases habove

/-- When the names `front` lead to `place`, the names of what stands below it lead on to that. -/
theorem walk_append (h : t.isSound = true) (hwalk : t.walk here front = .ok place)
    (hentry : (t.lookup? (place ++ names)).isSome = true) :
    t.walk here (front ++ names) = .ok (place ++ names) := by
  -- along the names below, each of which is a step to a directory that stands there
  induction names generalizing front place with
  | nil => simpa using hwalk
  | cons name rest ih =>
    have hrest : (t.lookup? ((place ++ [name]) ++ rest)).isSome = true := by
      rw [List.append_assoc]
      exact hentry
    have hnext := isSome_above h hrest
    obtain ⟨hdirectory, hname, hsize⟩ := parent_of_isSound h hnext
    have hstep : t.step place name = .ok (place ++ [name]) := by
      rw [step_eq_ok_iff hdirectory, if_neg (by simpa using hname)]
      exact ⟨hsize, rfl⟩
    have hfound := ih (walk_concat hwalk hstep hnext) hrest
    rw [List.append_assoc, List.append_assoc] at hfound
    exact hfound

/-- When `root` leads to `place`, the path from there to what stands below leads to that, unless the
path as a whole is at fault. -/
theorem locate_join {root : Path} (h : t.isSound = true) (hlocate : t.locate root = .ok place)
    (hfree : pathFault? (root.join ⟨.workingDirectory, names⟩) = none)
    (hentry : (t.lookup? (place ++ names)).isSome = true) :
    t.locate (root.join ⟨.workingDirectory, names⟩) = .ok (place ++ names) := by
  simp only [locate, hfree]
  exact walk_append h (walk_of_locate hlocate) hentry

/-! ## Removing -/

/-- Leaving entries out by their places leaves the others where they stand. -/
theorem lookup_filter_keys (p : Place → Bool) (entries : List (Place × FileEntry)) :
    (entries.filter fun x => p x.1).lookup place =
      if p place then entries.lookup place else none := by
  induction entries with
  | nil => simp
  | cons first rest ih =>
    obtain ⟨other, entry⟩ := first
    by_cases hother : place = other
    · subst hother
      cases hp : p place with
      | true => simp [hp]
      | false => simpa [hp] using ih
    · have hskip : ∀ xs, ((other, entry) :: xs).lookup place = xs.lookup place := fun xs => by
        rw [List.lookup_cons, beq_eq_false_iff_ne.mpr hother]
      rw [hskip, ← ih, List.filter_cons]
      dsimp only
      split
      · exact hskip _
      · rfl

/-- After `remove`, nothing stands at `removed` and below it, and all else stands where it did. -/
theorem lookup?_remove (t : FileTree) (hne : place ≠ []) (removed : Place) :
    (t.remove removed).lookup? place =
      if removed.isPrefixOf place then none else t.lookup? place := by
  cases place with
  | nil => exact absurd rfl hne
  | cons name names =>
    have hkept : (t.entries.filter fun x => !removed.isPrefixOf x.1).lookup (name :: names) = _ :=
      lookup_filter_keys (fun other => !removed.isPrefixOf other) t.entries
    refine Eq.trans hkept ?_
    cases removed.isPrefixOf (name :: names) <;> rfl

/-- Removing keeps a tree sound, as long as the working directory is not among what is removed. -/
theorem isSound_remove (h : t.isSound = true) {removed : Place}
    (hworking : ¬ removed <+: t.workingDirectory) : (t.remove removed).isSound = true := by
  have hkeeps : ∀ p, ¬ removed <+: p → (t.remove removed).lookup? p = t.lookup? p := by
    intro p hp
    cases p with
    | nil => rfl
    | cons name names =>
      rw [lookup?_remove t (List.cons_ne_nil name names),
        if_neg (by rwa [List.isPrefixOf_iff_prefix])]
  unfold isSound
  rw [Bool.and_eq_true, beq_iff_eq, List.all_eq_true]
  refine ⟨(hkeeps _ hworking).trans (directory_of_isSound h), fun x hx => ?_⟩
  obtain ⟨hentry, hleft⟩ := List.mem_filter.mp hx
  have hplace : ¬ removed <+: x.1 := by
    rw [← List.isPrefixOf_iff_prefix, Bool.not_eq_true, ← Bool.not_eq_true']
    exact hleft
  have hallowed : t.allows x.1 = true := by
    unfold isSound at h
    rw [Bool.and_eq_true, List.all_eq_true] at h
    exact h.2 x hentry
  unfold allows at hallowed ⊢
  split
  · rfl
  · next name hname =>
    rw [hname] at hallowed
    -- what is above an entry that is left is left too
    rw [hkeeps _ fun habove => hplace (habove.trans (List.dropLast_prefix _))]
    exact hallowed

/-! ## Paths without steps up -/

/-- Names without a step up lead to the place that they spell, if they lead anywhere. -/
theorem eq_append_of_walk (hup : up ∉ names) (h : t.walk here names = .ok place) :
    place = here ++ names := by
  induction names generalizing here with
  | nil =>
    unfold walk at h
    split at h
    · cases h
      exact (List.append_nil _).symm
    · cases h
  | cons name rest ih =>
    rw [List.mem_cons, not_or] at hup
    unfold walk at h
    split at h
    · cases h
    · next next hstep =>
      rw [step_eq_ok_iff (directory_of_step hstep), if_neg (by simpa using Ne.symm hup.1)] at hstep
      rw [ih hup.2 h, hstep.2, List.append_assoc, List.singleton_append]

/-- When a path that led nowhere leads somewhere in a tree that has grown, something on the way was
missing. -/
theorem exists_missing (hgrows : t.Grows t') (hup : up ∉ names)
    (h : t.walk here names = .error fault) (h' : t'.walk here names = .ok place) :
    ∃ front back, names = front ++ back ∧ t.lookup? (here ++ front) = none := by
  induction names generalizing here with
  | nil =>
    refine ⟨[], [], rfl, ?_⟩
    unfold walk at h
    split at h
    · cases h
    · next hmissing => simpa using hmissing
  | cons name rest ih =>
    rw [List.mem_cons, not_or] at hup
    unfold walk at h h'
    cases hentry : t.lookup? here with
    | none => exact ⟨[], name :: rest, rfl, by simpa using hentry⟩
    | some entry =>
      cases entry with
      | file content =>
        -- a file is still in the way
        obtain ⟨content', hfile⟩ := hgrows.file here content hentry
        simp only [step, hfile] at h'
        cases h'
      | directory =>
        split at h'
        · cases h'
        · next next hstep' =>
          have hstep : t.step here name = .ok next := by
            rw [step_eq_ok_iff hentry]
            exact (step_eq_ok_iff (directory_of_step hstep')).mp hstep'
          rw [hstep] at h
          rw [step_eq_ok_iff hentry, if_neg (by simpa using Ne.symm hup.1)] at hstep
          obtain ⟨front, back, hrest, hnone⟩ := ih hup.2 h h'
          refine ⟨name :: front, back, by rw [hrest, List.cons_append], ?_⟩
          rw [hstep.2, List.append_assoc] at hnone
          exact hnone

end FileTree

end OrmMapping
