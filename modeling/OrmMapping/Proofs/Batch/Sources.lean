import OrmMapping.Batch.Sources
import OrmMapping.Proofs.Files.Faults
import OrmMapping.Report

/-!
# Sources below search paths

Discovery fails for search paths that are too long and for nothing else, and what it finds can be
opened by the path that it is found by.

* `Overlong`: search paths that are too long;
* `Source.discover_eq_error_iff`: when discovery fails;
* `Source.below_cases`: what one search path leads to;
* `Source.pathFault?_of_discover`: the paths of what it finds.
-/

namespace OrmMapping

section Lists

variable {ε α β : Type} {f : α → Except ε β} {xs : List α} {ys : List β}

/-- What stands in the results comes from one of the items. -/
theorem exists_of_mem_mapM (h : xs.mapM f = .ok ys) {y : β} (hy : y ∈ ys) :
    ∃ x ∈ xs, f x = .ok y := by
  induction xs generalizing ys with
  | nil =>
    cases h
    cases hy
  | cons x rest ih =>
    simp only [List.mapM_cons, bind_eq_ok, pure_eq_ok] at h
    obtain ⟨first, hfirst, others, hothers, rfl⟩ := h
    rcases List.mem_cons.mp hy with rfl | hy
    · exact ⟨x, List.mem_cons_self, hfirst⟩
    · obtain ⟨x', hx', hfound⟩ := ih hothers hy
      exact ⟨x', List.mem_cons_of_mem x hx', hfound⟩

/-- An error is that of one of the items. -/
theorem exists_of_mapM_eq_error {e : ε} (h : xs.mapM f = .error e) : ∃ x ∈ xs, f x = .error e := by
  induction xs with
  | nil => cases h
  | cons x rest ih =>
    simp only [List.mapM_cons, bind_eq_error] at h
    rcases h with hfirst | ⟨_, _, hrest | ⟨_, _, hpure⟩⟩
    · exact ⟨x, List.mem_cons_self, hfirst⟩
    · obtain ⟨x', hx', hfailed⟩ := ih hrest
      exact ⟨x', List.mem_cons_of_mem x hx', hfailed⟩
    · cases hpure

/-- There are results only when every item has one. -/
theorem exists_eq_ok_of_mapM (h : xs.mapM f = .ok ys) {x : α} (hx : x ∈ xs) :
    ∃ y ∈ ys, f x = .ok y := by
  induction xs generalizing ys with
  | nil => cases hx
  | cons first rest ih =>
    simp only [List.mapM_cons, bind_eq_ok, pure_eq_ok] at h
    obtain ⟨y, hy, others, hothers, rfl⟩ := h
    rcases List.mem_cons.mp hx with rfl | hx
    · exact ⟨y, List.mem_cons_self, hy⟩
    · obtain ⟨y', hy', hfound⟩ := ih hothers hx
      exact ⟨y', List.mem_cons_of_mem y hy', hfound⟩

/-- Results are the same when they are so for each item. -/
theorem mapM_eq_of_forall {g : α → Except ε β} {zs : List β} (hf : xs.mapM f = .ok ys)
    (hg : xs.mapM g = .ok zs)
    (hsame : ∀ x ∈ xs, ∀ y z, f x = .ok y → g x = .ok z → z = y) : zs = ys := by
  induction xs generalizing ys zs with
  | nil =>
    cases hf
    cases hg
    rfl
  | cons x rest ih =>
    simp only [List.mapM_cons, bind_eq_ok, pure_eq_ok] at hf hg
    obtain ⟨y, hy, ys', hys, rfl⟩ := hf
    obtain ⟨z, hz, zs', hzs, rfl⟩ := hg
    rw [hsame x List.mem_cons_self y z hy hz,
      ih hys hzs fun x' hx' => hsame x' (List.mem_cons_of_mem x hx')]

end Lists

variable {t : FileTree} {root : Path} {roots : List Path} {suffixes : List String} {e : FileError}
  {sources : List Source} {source : Source} {place : Place}

/-! ## Search paths that are too long -/

/-- When a search path is too long: it is so itself, or on the way to something below it. -/
inductive Overlong (t : FileTree) (root : Path) : FileError → Prop
  | itself (long : t.locate root = .error .nameTooLong) : Overlong t root ⟨.nameTooLong, root⟩
  | below {place : Place} {names : List String} (locate : t.locate root = .ok place)
      (directory : t.isFileAt place = false) (mem : names ∈ t.allBelow place)
      (long : (FileTree.pathFault? (root.join ⟨.workingDirectory, names⟩)).isSome = true) :
      Overlong t root ⟨.nameTooLong, root.join ⟨.workingDirectory, names⟩⟩

/-- The path in the error is too long, or has a name that no file can have. -/
theorem Overlong.path (h : Overlong t root e) : e.path.TooLong ∨ ¬ e.path.NullFree := by
  cases h with
  | itself long => exact Or.inl (FileTree.tooLong_of_locate long)
  | below locate directory mem long => exact FileTree.tooLong_of_pathFault? long

namespace Source

/-- When `below` fails for a search path, the path is too long. -/
theorem overlong_of_below (h : below t suffixes root = .error e) : Overlong t root e := by
  unfold below at h
  split at h
  · next hlong =>
    cases h
    exact .itself hlong
  · cases h
  · next place hlocate =>
    split at h
    · cases h
    · next hdirectory =>
      split at h
      · next path hfound =>
        cases h
        have hlong := List.find?_some hfound
        obtain ⟨names, hnames, rfl⟩ := List.mem_map.mp (List.mem_of_find?_eq_some hfound)
        -- the path that was found is one of those to what stands below
        exact .below hlocate (by simpa using hdirectory) hnames hlong
      · cases h

/-- For a search path that is too long `below` fails, possibly with another error than `e`: it
reports the first of the paths that are too long. -/
theorem exists_below_eq_error (h : Overlong t root e) (suffixes : List String) :
    ∃ e', below t suffixes root = .error e' := by
  cases h with
  | itself long => exact ⟨⟨.nameTooLong, root⟩, by simp only [below, long]⟩
  | @below place names locate directory mem long =>
    have hfound : ((pathsFrom root (t.allBelow place)).find? fun p =>
        (FileTree.pathFault? p).isSome).isSome = true :=
      List.find?_isSome.mpr ⟨_, List.mem_map_of_mem mem, long⟩
    obtain ⟨path, hpath⟩ := Option.isSome_iff_exists.mp hfound
    refine ⟨⟨.nameTooLong, path⟩, ?_⟩
    simp only [Source.below, locate, directory, Bool.false_eq_true, if_false, hpath]

/-- When discovery fails, one of the search paths is too long, with the same error. -/
theorem discover_eq_error (h : discover t roots suffixes = .error e) :
    ∃ root ∈ roots, Overlong t root e := by
  unfold discover at h
  cases hall : roots.mapM (below t suffixes) with
  | ok found =>
    rw [hall] at h
    cases h
  | error fault =>
    rw [hall] at h
    cases h
    obtain ⟨root, hroot, hfailed⟩ := exists_of_mapM_eq_error hall
    exact ⟨root, hroot, overlong_of_below hfailed⟩

/-- Discovery fails for a search path that is too long, and for nothing else. -/
theorem discover_eq_error_iff :
    (∃ e, discover t roots suffixes = .error e) ↔ ∃ root ∈ roots, ∃ e, Overlong t root e := by
  constructor
  · rintro ⟨e, h⟩
    obtain ⟨root, hroot, hlong⟩ := discover_eq_error h
    exact ⟨root, hroot, e, hlong⟩
  · rintro ⟨root, hroot, e, hlong⟩
    -- another path before it may fail as well, so the error is left open
    obtain ⟨e', hfailed⟩ := exists_below_eq_error hlong suffixes
    cases hall : roots.mapM (below t suffixes) with
    | error e'' => exact ⟨e'', by simp only [discover, hall, Except.map]⟩
    | ok found =>
      obtain ⟨part, -, hbelow⟩ := exists_eq_ok_of_mapM hall hroot
      rw [hfailed] at hbelow
      cases hbelow

/-! ## What is found -/

/-- `distinct` adds nothing: each source that it keeps was found at a place. -/
theorem exists_of_mem_distinct {seen : List Place} {found : List (Place × Source)}
    (h : source ∈ distinct seen found) : ∃ place, (place, source) ∈ found := by
  induction found generalizing seen with
  | nil => cases h
  | cons first rest ih =>
    obtain ⟨place, other⟩ := first
    unfold distinct at h
    split at h
    · obtain ⟨p, hp⟩ := ih h
      exact ⟨p, List.mem_cons_of_mem _ hp⟩
    · rcases List.mem_cons.mp h with rfl | h
      · exact ⟨place, List.mem_cons_self⟩
      · obtain ⟨p, hp⟩ := ih h
        exact ⟨p, List.mem_cons_of_mem _ hp⟩

/-- Every source is found below one of the search paths. -/
theorem exists_below_of_mem (h : discover t roots suffixes = .ok sources)
    (hmem : source ∈ sources) :
    ∃ root ∈ roots, ∃ found place, below t suffixes root = .ok found ∧ (place, source) ∈ found := by
  unfold discover at h
  cases hall : roots.mapM (below t suffixes) with
  | error fault =>
    rw [hall] at h
    cases h
  | ok found =>
    rw [hall] at h
    cases h
    obtain ⟨place, hplace⟩ := exists_of_mem_distinct hmem
    obtain ⟨part, hpart, hsource⟩ := List.mem_flatten.mp hplace
    obtain ⟨root, hroot, hbelow⟩ := exists_of_mem_mapM hall hpart
    exact ⟨root, hroot, part, place, hbelow, hsource⟩

/-- A file below a directory, as a source. -/
def belowDirectory (place : Place) (root : Path) (names : List String) : Place × Source :=
  (place ++ names, ⟨qualify names, root.join ⟨.workingDirectory, names⟩, root⟩)

/-- All that a search path can lead to: nothing, or the file that it names, or the files below a
directory. -/
theorem below_cases {found : List (Place × Source)} (h : below t suffixes root = .ok found) :
    (∃ fault, t.locate root = .error fault ∧ found = []) ∨
    (∃ place, t.locate root = .ok place ∧ t.isFileAt place = true ∧
      found = if hasSuffix suffixes root.name then
        [(place, ⟨qualify [root.name], root, root.parent⟩)] else []) ∨
    (∃ place, t.locate root = .ok place ∧ t.isFileAt place = false ∧
      (∀ names ∈ t.allBelow place,
        FileTree.pathFault? (root.join ⟨.workingDirectory, names⟩) = none) ∧
      found = ((t.filesBelow place).filter fun names =>
        hasSuffix suffixes (names.getLast?.getD "")).map (belowDirectory place root)) := by
  unfold below at h
  split at h
  · cases h
  · next fault _ hlocate => exact Or.inl ⟨fault, hlocate, (Except.ok.inj h).symm⟩
  · -- the path leads to a place
    next place hlocate =>
    split at h
    · next hfile => exact Or.inr (Or.inl ⟨place, hlocate, hfile, (Except.ok.inj h).symm⟩)
    · next hdirectory =>
      split at h
      · cases h
      · next hfree =>
        refine Or.inr (Or.inr ⟨place, hlocate, by simpa using hdirectory, ?_,
          (Except.ok.inj h).symm⟩)
        -- all paths below were looked at before
        intro names hnames
        have hnone := List.find?_eq_none.mp hfree _ (List.mem_map_of_mem hnames)
        simpa using hnone

/-- A path that leads to a place is not at fault in itself. -/
theorem pathFault?_of_locate (h : t.locate root = .ok place) : FileTree.pathFault? root = none := by
  unfold FileTree.locate at h
  split at h
  · cases h
  · next hfree => exact hfree

/-- The path of a source that was found is not at fault in itself: it is the search path, or one of
those below that `below` looked at before. -/
theorem pathFault?_of_mem_below {found : List (Place × Source)}
    (h : below t suffixes root = .ok found) (hmem : (place, source) ∈ found) :
    FileTree.pathFault? source.path = none := by
  rcases below_cases h with
    ⟨fault, -, rfl⟩ | ⟨place, hlocate, -, rfl⟩ | ⟨place, -, -, hpaths, rfl⟩
  · cases hmem
  · split at hmem
    · cases List.mem_singleton.mp hmem
      exact pathFault?_of_locate hlocate
    · cases hmem
  · obtain ⟨names, hnames, heq⟩ := List.mem_map.mp hmem
    cases heq
    exact hpaths names (List.mem_filter.mp (List.mem_filter.mp hnames).1).1

/-- The sources below one search path more come after the others, unless they were found before. `h`
says that the search of this path comes to its end. -/
theorem discover_concat {last : List (Place × Source)} (h : below t suffixes root = .ok last) :
    discover t (roots ++ [root]) suffixes =
      (roots.mapM (below t suffixes)).map fun found => distinct [] (found.flatten ++ last) := by
  unfold discover
  rw [List.mapM_append]
  cases roots.mapM (below t suffixes) with
  | error fault => rfl
  | ok found =>
    have hlast : [root].mapM (below t suffixes) = .ok [last] := by
      rw [List.mapM_cons, h]
      rfl
    rw [hlast]
    simp [Except.map, bind, Except.bind, pure, Except.pure]

/-- A further search path that leads nowhere (`h`) adds nothing. -/
theorem discover_concat_of_missing (h : t.locate root = .error .missing) :
    discover t (roots ++ [root]) suffixes = discover t roots suffixes := by
  have hnone : below t suffixes root = .ok [] := by
    simp only [below, h]
  rw [discover_concat hnone, discover]
  simp only [List.append_nil]

/-- The paths of the sources that a search finds are not at fault in themselves. -/
theorem pathFault?_of_discover (h : discover t roots suffixes = .ok sources)
    (hmem : source ∈ sources) : FileTree.pathFault? source.path = none := by
  obtain ⟨root, -, found, place, hbelow, hsource⟩ := exists_below_of_mem h hmem
  exact pathFault?_of_mem_below hbelow hsource

end Source

end OrmMapping
