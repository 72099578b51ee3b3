import Mathlib.Data.List.Induction
import OrmMapping.Proofs.Batch.Endings
import OrmMapping.Proofs.Files.Listing
import OrmMapping.Proofs.Files.Ways

/-!
# What a search lists

A search lists every file with one of the suffixes that stands at or below a search path, once, and
nothing else. The files are in the order of the first search path that leads to each, and among
those of one search path in the order of the names in their paths. A further search path inside an
earlier one adds nothing. Search paths that are too long are the exception: the search then fails.

* `FileTree.reaches`, `FileTree.firstReach`: the search paths that lead to a place;
* `Source.FoundBelow`, `Source.foundBelow`: what one search path leads to;
* `Source.keep`: the files at places that did not come before;
* `Source.Lists`, `Source.Lists.concat`: what is listed, and one search path more;
* `Source.discover_lists`: whole searches.
-/

namespace OrmMapping

variable {t : FileTree} {root : Path} {roots : List Path} {place : Place} {suffixes : List String}
  {seen seen' : List Place} {found last : List (Place × Source)}
  {parts : List (List (Place × Source))}

namespace FileTree

/-! ## Where search paths lead -/

/-- Whether a path leads to a place, or to something above it. -/
def reaches (t : FileTree) (place : Place) (root : Path) : Bool :=
  match t.locate root with
  | .ok top => top.isPrefixOf place
  | .error _ => false

/-- The position of the first search path that leads to a place. -/
def firstReach (t : FileTree) (roots : List Path) (place : Place) : Nat :=
  roots.findIdx (t.reaches place)

/-- A path reaches a place when it leads to the place or to one above it. -/
theorem reaches_iff :
    t.reaches place root = true ↔ ∃ top, t.locate root = .ok top ∧ top <+: place := by
  unfold reaches
  cases t.locate root with
  | ok top => simp
  | error fault => simp

/-- What reaches a place reaches all that is below it. -/
theorem reaches_append {earlier : Path} (h : t.reaches place earlier = true) (names : List String) :
    t.reaches (place ++ names) earlier = true := by
  obtain ⟨top, hlocate, habove⟩ := reaches_iff.mp h
  exact reaches_iff.mpr ⟨top, hlocate, habove.trans (List.prefix_append _ _)⟩

/-- A further search path does not count for a place that an earlier one reaches. -/
theorem firstReach_concat_of_exists (h : ∃ earlier ∈ roots, t.reaches place earlier = true) :
    t.firstReach (roots ++ [root]) place = t.firstReach roots place := by
  rw [firstReach, List.findIdx_append, if_pos (List.findIdx_lt_length_of_exists h), firstReach]

/-- A place that no earlier search path reaches is first reached by the further one, if that reaches
it. -/
theorem firstReach_concat_of_first (hnone : ¬ ∃ earlier ∈ roots, t.reaches place earlier = true)
    (h : t.reaches place root = true) :
    t.firstReach (roots ++ [root]) place = roots.length := by
  rw [firstReach, List.findIdx_append, if_neg (List.findIdx_lt_length.not.mpr hnone),
    List.findIdx_cons, h, cond_true, Nat.zero_add]

/-- A path that leads to a file ends with the name of the file, and with no step up. -/
theorem getLast_of_locate (hsound : t.isSound = true) (h : t.locate root = .ok place)
    (hfile : t.isFileAt place = true) : place.getLast?.getD "" = root.name := by
  obtain ⟨content, hcontent⟩ := isFileAt_iff.mp hfile
  have hwalk := walk_of_locate h
  rcases List.eq_nil_or_concat' root.parts with hnil | ⟨front, name, hparts⟩
  · -- the path leads to where it starts, which is a directory
    have hstart : place = t.start root := by
      simpa [hnil, walk, directory_start hsound root, eq_comm] using hwalk
    rw [hstart, directory_start hsound root] at hcontent
    cases hcontent
  · rw [hparts] at hwalk
    obtain ⟨parent, -, hstep, -⟩ := exists_walk_of_concat hwalk
    have hparent := directory_of_step hstep
    have hlast := (step_eq_ok_iff hparent).mp hstep
    by_cases hup : name = up
    · rw [if_pos (by simpa using hup)] at hlast
      -- what is above a directory is a directory
      have habove : t.lookup? parent.dropLast = some .directory := by
        rcases List.eq_nil_or_concat' parent with rfl | ⟨above, last, rfl⟩
        · rfl
        · rw [List.dropLast_concat]
          exact (parent_of_isSound hsound (by rw [hparent, Option.isSome_some])).1
      rw [hlast, habove] at hcontent
      cases hcontent
    · rw [if_neg (by simpa using hup)] at hlast
      rw [hlast.2, Path.name, hparts, List.getLast?_concat, List.getLast?_concat]

end FileTree

namespace Source

/-! ## One search path -/

/-- Whether a file with one of the suffixes stands at a place. -/
def isAt (t : FileTree) (suffixes : List String) (place : Place) : Bool :=
  t.isFileAt place && hasSuffix suffixes (place.getLast?.getD "")

/-- What one search path leads to: all files with one of the suffixes at its place or below, in the
order of the names in their paths. -/
structure FoundBelow (t : FileTree) (suffixes : List String) (root : Path)
    (found : List (Place × Source)) : Prop where
  located : ∀ x ∈ found, t.locate x.2.path = .ok x.1
  mem_iff : ∀ place, place ∈ found.map (·.1) ↔
    isAt t suffixes place = true ∧ t.reaches place root = true
  ordered : found.Pairwise fun x y => x.1 = y.1 ∨ x.2.path.parts < y.2.path.parts

/-- A search path that leads nowhere leads to no files. -/
theorem foundBelow_of_missing {fault : FileFault} (h : t.locate root = .error fault) :
    FoundBelow t suffixes root [] := by
  refine ⟨by simp, fun place => ?_, .nil⟩
  simp [FileTree.reaches, h]

/-- A search path that leads to a file leads to that file, if it has one of the suffixes. -/
theorem foundBelow_of_file (hsound : t.isSound = true) (h : t.locate root = .ok place)
    (hfile : t.isFileAt place = true) :
    FoundBelow t suffixes root (if hasSuffix suffixes root.name then
      [(place, ⟨qualify [root.name], root, root.parent⟩)] else []) := by
  have hat : isAt t suffixes place = hasSuffix suffixes root.name := by
    rw [isAt, hfile, Bool.true_and, FileTree.getLast_of_locate hsound h hfile]
  have honly (other : Place) : (isAt t suffixes other = true ∧ t.reaches other root = true) ↔
      hasSuffix suffixes root.name = true ∧ other = place := by
    constructor
    · rintro ⟨hother, hreaches⟩
      obtain ⟨top, htop, names, rfl⟩ := FileTree.reaches_iff.mp hreaches
      rw [h] at htop
      cases htop
      -- below a file there is nothing
      by_cases hnames : names = []
      · rw [hnames, List.append_nil] at hother ⊢
        exact ⟨hat ▸ hother, rfl⟩
      · rw [isAt, FileTree.isFileAt, FileTree.nothing_below_file hsound hfile hnames] at hother
        cases hother
    · rintro ⟨hsuffix, rfl⟩
      exact ⟨hat.trans hsuffix, FileTree.reaches_iff.mpr ⟨_, h, List.prefix_refl _⟩⟩
  split
  · next hsuffix =>
    refine ⟨fun x hx => ?_, fun other => ?_, List.pairwise_singleton _ _⟩
    · rw [List.mem_singleton.mp hx]
      exact h
    · rw [honly, List.map_singleton, List.mem_singleton]
      exact ⟨fun heq => ⟨hsuffix, heq⟩, And.right⟩
  · next hsuffix =>
    refine ⟨by simp, fun other => ?_, .nil⟩
    rw [honly]
    simp [hsuffix]

/-- A search path that leads to a directory leads to all files with one of the suffixes below it,
sorted. `hpaths` says that none of the paths to them is at fault. -/
theorem foundBelow_of_directory (hsound : t.isSound = true) (h : t.locate root = .ok place)
    (hdirectory : t.isFileAt place = false)
    (hpaths : ∀ names ∈ t.allBelow place,
      FileTree.pathFault? (root.join ⟨.workingDirectory, names⟩) = none) :
    FoundBelow t suffixes root (((t.filesBelow place).filter fun names =>
      hasSuffix suffixes (names.getLast?.getD "")).map (belowDirectory place root)) := by
  refine ⟨fun x hx => ?_, fun other => ?_, ?_⟩
  · obtain ⟨names, hnames, rfl⟩ := List.mem_map.mp hx
    obtain ⟨hbelow, hfile⟩ := List.mem_filter.mp (List.mem_filter.mp hnames).1
    obtain ⟨content, hcontent⟩ := FileTree.isFileAt_iff.mp hfile
    exact FileTree.locate_join hsound h (hpaths names hbelow) (by rw [hcontent, Option.isSome_some])
  · rw [FileTree.reaches_iff, isAt, Bool.and_eq_true]
    -- a place is listed for the names below the directory that lead to it, and these are what is
    -- left of it
    constructor
    · intro hmem
      obtain ⟨x, hx, rfl⟩ := List.mem_map.mp hmem
      obtain ⟨names, hnames, rfl⟩ := List.mem_map.mp hx
      obtain ⟨hnames, hsuffix⟩ := List.mem_filter.mp hnames
      obtain ⟨hne, hfile⟩ := FileTree.mem_filesBelow_iff.mp hnames
      refine ⟨⟨hfile, ?_⟩, place, h, List.prefix_append _ _⟩
      rw [belowDirectory, List.getLast?_append_of_ne_nil _ hne, hsuffix]
    · rintro ⟨⟨hfile, hsuffix⟩, top, htop, names, rfl⟩
      rw [h] at htop
      cases htop
      have hne : names ≠ [] := by
        rintro rfl
        rw [List.append_nil, hdirectory] at hfile
        cases hfile
      rw [List.getLast?_append_of_ne_nil _ hne] at hsuffix
      have hnames : names ∈ (t.filesBelow place).filter fun names =>
          hasSuffix suffixes (names.getLast?.getD "") :=
        List.mem_filter.mpr ⟨FileTree.mem_filesBelow_iff.mpr ⟨hne, hfile⟩, hsuffix⟩
      exact List.mem_map.mpr ⟨_, List.mem_map_of_mem hnames, rfl⟩
  · -- the names below are sorted, and all paths begin alike
    have hsorted : (t.filesBelow place).Pairwise (Text.allAtMost · · = true) :=
      (Text.pairwise_mergeSort _).filter _
    refine List.pairwise_map.mpr ((hsorted.filter _).imp fun {names names'} hle => ?_)
    rw [Text.allAtMost_iff] at hle
    rcases eq_or_lt_of_le hle with rfl | hlt
    · exact Or.inl rfl
    · exact Or.inr (List.append_left_lt hlt)

/-- What `below` finds is what one search path leads to. -/
theorem foundBelow (hsound : t.isSound = true) (h : below t suffixes root = .ok found) :
    FoundBelow t suffixes root found := by
  rcases below_cases h with
    ⟨fault, hlocate, rfl⟩ | ⟨place, hlocate, hfile, rfl⟩ | ⟨place, hlocate, hdirectory, hpaths, rfl⟩
  · exact foundBelow_of_missing hlocate
  · exact foundBelow_of_file hsound hlocate hfile
  · exact foundBelow_of_directory hsound hlocate hdirectory hpaths

/-! ## Files at new places -/

/-- The files at places that did not come before, with their places. -/
def keep : (seen : List Place) → List (Place × Source) → List (Place × Source)
  | _, [] => []
  | seen, x :: rest => if x.1 ∈ seen then keep seen rest else x :: keep (x.1 :: seen) rest

/-- `distinct` gives the files that `keep` keeps, without the places. -/
theorem distinct_eq_map_keep (seen : List Place) (found : List (Place × Source)) :
    distinct seen found = (keep seen found).map (·.2) := by
  induction found generalizing seen with
  | nil => rfl
  | cons x rest ih =>
    rw [distinct, keep, List.contains_eq_mem]
    by_cases hx : x.1 ∈ seen
    · simp [hx, ih]
    · simp [hx, ih]

/-- What is kept is in the order in which it was found. -/
theorem keep_sublist (seen : List Place) (found : List (Place × Source)) :
    (keep seen found).Sublist found := by
  induction found generalizing seen with
  | nil => exact .slnil
  | cons x rest ih =>
    rw [keep]
    split
    · exact (ih seen).cons x
    · exact (ih _).cons_cons x

/-- The places that are kept are those that were found and did not come before. -/
theorem mem_map_keep_iff :
    place ∈ (keep seen found).map (·.1) ↔ place ∈ found.map (·.1) ∧ place ∉ seen := by
  induction found generalizing seen with
  | nil => simp [keep]
  | cons x rest ih =>
    rw [keep]
    by_cases heq : place = x.1
    · subst heq
      split
      · next hseen => simp [ih, hseen]
      · next hseen => simp [hseen]
    · split <;> simp [ih, heq]

/-- No place is kept twice. -/
theorem nodup_map_keep (seen : List Place) (found : List (Place × Source)) :
    ((keep seen found).map (·.1)).Nodup := by
  induction found generalizing seen with
  | nil => exact .nil
  | cons x rest ih =>
    rw [keep]
    split
    · exact ih seen
    · rw [List.map_cons, List.nodup_cons, mem_map_keep_iff]
      exact ⟨fun h => h.2 List.mem_cons_self, ih _⟩

/-- Of the places that came before only their set counts, not the order. -/
theorem keep_congr (h : ∀ place, place ∈ seen ↔ place ∈ seen') (found : List (Place × Source)) :
    keep seen found = keep seen' found := by
  induction found generalizing seen seen' with
  | nil => rfl
  | cons x rest ih =>
    have hmore : ∀ place, place ∈ x.1 :: seen ↔ place ∈ x.1 :: seen' := by simp [h]
    rw [keep, keep, ih h, ih hmore]
    simp [h]

/-- Of two finds, the second one is kept but for the places of the first. -/
theorem keep_append (seen : List Place) (found last : List (Place × Source)) :
    keep seen (found ++ last) = keep seen found ++ keep (found.map (·.1) ++ seen) last := by
  -- what has been seen grows along the first find
  induction found generalizing seen with
  | nil => rfl
  | cons x rest ih =>
    rw [List.cons_append, keep, keep]
    split
    · next hseen =>
      have hsame : ∀ place, place ∈ rest.map (·.1) ++ seen ↔
          place ∈ (x :: rest).map (·.1) ++ seen := by
        intro place
        by_cases heq : place = x.1 <;> simp [heq, hseen]
      rw [ih, keep_congr hsame]
    · have hsame : ∀ place, place ∈ rest.map (·.1) ++ x.1 :: seen ↔
          place ∈ (x :: rest).map (·.1) ++ seen := by
        intro place
        simp only [List.map_cons, List.cons_append, List.mem_append, List.mem_cons, or_left_comm]
      rw [ih, keep_congr hsame, List.cons_append]

/-! ## All search paths -/

/-- What a search lists, with the places: the files with one of the suffixes that its paths lead
to, each once, ordered by the first path that leads to each and then by the names in the paths. -/
structure Lists (t : FileTree) (suffixes : List String) (roots : List Path)
    (items : List (Place × Source)) : Prop where
  located : ∀ x ∈ items, t.locate x.2.path = .ok x.1
  nodup : (items.map (·.1)).Nodup
  mem_iff : ∀ place, place ∈ items.map (·.1) ↔
    isAt t suffixes place = true ∧ ∃ root ∈ roots, t.reaches place root = true
  ordered : items.Pairwise fun x y => t.firstReach roots x.1 < t.firstReach roots y.1 ∨
    t.firstReach roots x.1 = t.firstReach roots y.1 ∧ x.2.path.parts < y.2.path.parts

/-- The step lemma: one search path `root` more adds the files that it leads to at new places, after
those that are listed. -/
theorem Lists.concat (h : Lists t suffixes roots (keep [] found))
    (hlast : FoundBelow t suffixes root last) :
    Lists t suffixes (roots ++ [root]) (keep [] (found ++ last)) := by
  have hseen (place : Place) : place ∈ found.map (·.1) ↔ isAt t suffixes place = true ∧
      ∃ root ∈ roots, t.reaches place root = true := by
    rw [← h.mem_iff, mem_map_keep_iff]
    simp
  have hnew : ∀ x ∈ keep (found.map (·.1)) last,
      t.firstReach (roots ++ [root]) x.1 = roots.length := by
    intro x hx
    obtain ⟨hmem, hnot⟩ := mem_map_keep_iff.mp (List.mem_map_of_mem hx)
    obtain ⟨hat, hreaches⟩ := (hlast.mem_iff x.1).mp hmem
    exact FileTree.firstReach_concat_of_first (fun hold => hnot ((hseen x.1).mpr ⟨hat, hold⟩))
      hreaches
  have hold : ∀ x ∈ keep [] found,
      t.firstReach (roots ++ [root]) x.1 = t.firstReach roots x.1 ∧
        t.firstReach roots x.1 < roots.length := by
    intro x hx
    have hreached := ((h.mem_iff x.1).mp (List.mem_map_of_mem hx)).2
    exact ⟨FileTree.firstReach_concat_of_exists hreached,
      List.findIdx_lt_length_of_exists hreached⟩
  rw [keep_append, List.append_nil]
  constructor
  · intro x hx
    rcases List.mem_append.mp hx with hx | hx
    · exact h.located x hx
    · exact hlast.located x ((keep_sublist _ _).subset hx)
  · rw [List.map_append, List.nodup_append]
    refine ⟨h.nodup, nodup_map_keep _ _, fun p hp q hq heq => ?_⟩
    subst heq
    exact (mem_map_keep_iff.mp hq).2 ((hseen p).mpr ((h.mem_iff p).mp hp))
  · intro place
    rw [List.map_append, List.mem_append, h.mem_iff, mem_map_keep_iff, hseen, hlast.mem_iff]
    simp only [List.mem_append, List.mem_singleton, or_and_right, exists_or, exists_eq_left]
    generalize (∃ earlier, earlier ∈ roots ∧ t.reaches place earlier = true) = reached
    tauto
  · rw [List.pairwise_append]
    refine ⟨?_, ?_, fun x hx y hy => ?_⟩
    · refine h.ordered.imp_of_mem fun hx hy hxy => ?_
      rwa [(hold _ hx).1, (hold _ hy).1]
    · have hdistinct := List.pairwise_map.mp (nodup_map_keep (found.map (·.1)) last)
      have hsorted := hlast.ordered.sublist (keep_sublist (found.map (·.1)) last)
      refine (hdistinct.and hsorted).imp_of_mem fun hx hy hxy => ?_
      rw [hnew _ hx, hnew _ hy]
      exact Or.inr ⟨rfl, hxy.2.resolve_left hxy.1⟩
    · rw [hnew y hy, (hold x hx).1]
      exact Or.inl (hold x hx).2

/-- The run lemma: what the search paths find, kept at new places, is what a search lists. -/
theorem lists_of_mapM (hsound : t.isSound = true)
    (h : roots.mapM (below t suffixes) = .ok parts) :
    Lists t suffixes roots (keep [] parts.flatten) := by
  -- search paths are added at the end, as each is kept against all before it
  induction roots using List.reverseRecOn generalizing parts with
  | nil =>
    cases h
    exact ⟨by simp [keep], by simp [keep], by simp [keep], by simp [keep]⟩
  | append_singleton earlier root ih =>
    rw [List.mapM_append] at h
    simp only [bind_eq_ok, pure_eq_ok, List.mapM_cons, List.mapM_nil] at h
    obtain ⟨front, hfront, _, ⟨last, hlast, _, rfl, rfl⟩, rfl⟩ := h
    have hconcat := (ih hfront).concat (foundBelow hsound hlast)
    simpa using hconcat

/-- A further search path inside an earlier one adds nothing, unless it is too long. -/
theorem discover_concat_of_inside (hsound : t.isSound = true) (h : t.locate root = .ok place)
    (hinside : ∃ earlier ∈ roots, t.reaches place earlier = true)
    (hshort : ∀ e, ¬ Overlong t root e) :
    discover t (roots ++ [root]) suffixes = discover t roots suffixes := by
  cases hlast : below t suffixes root with
  | error e => exact absurd (overlong_of_below hlast) (hshort e)
  | ok last =>
    rw [discover_concat hlast, discover]
    cases hall : roots.mapM (below t suffixes) with
    | error fault => rfl
    | ok parts =>
      have hlists := lists_of_mapM hsound hall
      have hnone : keep (parts.flatten.map (·.1)) last = [] := by
        rw [← List.map_eq_nil_iff (f := (·.1)), List.eq_nil_iff_forall_not_mem]
        intro p hp
        obtain ⟨hmem, hnot⟩ := mem_map_keep_iff.mp hp
        obtain ⟨hat, hreaches⟩ := ((foundBelow hsound hlast).mem_iff p).mp hmem
        obtain ⟨top, htop, names, rfl⟩ := FileTree.reaches_iff.mp hreaches
        rw [h] at htop
        cases htop
        obtain ⟨earlier, hearlier, habove⟩ := hinside
        have hlisted := (hlists.mem_iff _).mpr
          ⟨hat, earlier, hearlier, FileTree.reaches_append habove names⟩
        exact hnot (by simpa using (mem_map_keep_iff.mp hlisted).1)
      simp only [Except.map, distinct_eq_map_keep, keep_append, hnone, List.append_nil]

/-- A search fails exactly for search paths that are too long. Otherwise it lists each file with one
of the suffixes at or below a search path once and nothing else, in order; and a further search path
at or below an earlier one changes nothing, unless it is too long itself. -/
theorem discover_lists (hsound : t.isSound = true) (roots : List Path) (suffixes : List String) :
    ((∃ e, discover t roots suffixes = .error e) ↔ ∃ root ∈ roots, ∃ e, Overlong t root e) ∧
    (∀ sources, discover t roots suffixes = .ok sources →
      ∃ items, sources = items.map (·.2) ∧ Lists t suffixes roots items) ∧
    ∀ root place, t.locate root = .ok place →
      (∃ earlier ∈ roots, t.reaches place earlier = true) → (∀ e, ¬ Overlong t root e) →
      discover t (roots ++ [root]) suffixes = discover t roots suffixes := by
  refine ⟨discover_eq_error_iff, fun sources h => ?_, fun root place hlocate hinside hshort =>
    discover_concat_of_inside hsound hlocate hinside hshort⟩
  obtain ⟨parts, hparts, rfl⟩ := map_eq_ok.mp h
  exact ⟨keep [] parts.flatten, distinct_eq_map_keep _ _, lists_of_mapM hsound hparts⟩

/-- A test for search paths that are not too long: they are not so with any names of the tree. -/
def isShort (t : FileTree) (root : Path) : Bool :=
  match t.locate root with
  | .error fault => fault != .nameTooLong
  | .ok top => t.keys.all fun p =>
    (FileTree.pathFault? (root.join ⟨.workingDirectory, p.drop top.length⟩)).isNone

/-- A search path that passes the test is not too long. -/
theorem not_overlong_of_isShort (h : isShort t root = true) (e : FileError) :
    ¬ Overlong t root e := by
  intro hlong
  unfold isShort at h
  cases hlong with
  | itself long =>
    rw [long] at h
    cases h
  | @below place names locate directory mem long =>
    rw [locate] at h
    have hfree := List.all_eq_true.mp h _ (FileTree.mem_allBelow_iff.mp mem).2
    rw [List.drop_left] at hfree
    simp [Option.isNone_iff_eq_none.mp hfree] at long

/-- Two directories, one in the other, with a file of another kind among the sources. -/
def depot : FileTree where
  entries := [
    (["models"], .directory),
    (["models", "parts"], .directory),
    (["models", "parts", "Tyre.JSON"], .file []),
    (["models", "parts-list.json"], .file []),
    (["models", "notes.txt"], .file []),
    (["models", "Car.json"], .file [])]

/-- Search paths to a file, by a step up, to nothing, and to the directory that holds the file. -/
def depotPaths : List Path :=
  [{ parts := ["models", "parts", "..", "Car.json"] }, { parts := ["missing"] },
    { parts := ["models"] }]

/-- In the depot the search lists each file once, and a further search path inside another adds
nothing. -/
theorem discover_lists_depot :
    (∃ items, discover depot depotPaths [".Json"] = .ok (items.map (·.2)) ∧
      Lists depot [".Json"] depotPaths items ∧
      ["models", "Car.json"] ∈ items.map (·.1) ∧
      ["models", "parts", "Tyre.JSON"] ∈ items.map (·.1) ∧
      ["models", "notes.txt"] ∉ items.map (·.1)) ∧
    discover depot (depotPaths ++ [{ parts := ["models", "parts"] }]) [".Json"] =
      discover depot depotPaths [".Json"] := by
  obtain ⟨hfails, hlists, hinside⟩ :=
    discover_lists (t := depot) (by decide +kernel) depotPaths [".Json"]
  have hshort : ∀ root ∈ depotPaths, isShort depot root = true := by decide +kernel
  refine ⟨?_, hinside { parts := ["models", "parts"] } ["models", "parts"] (by decide +kernel)
    (by decide +kernel) (not_overlong_of_isShort (by decide +kernel))⟩
  cases hdiscover : discover depot depotPaths [".Json"] with
  | error e =>
    obtain ⟨root, hroot, e', hlong⟩ := hfails.mp ⟨e, hdiscover⟩
    exact absurd hlong (not_overlong_of_isShort (hshort root hroot) e')
  | ok sources =>
    obtain ⟨items, rfl, hitems⟩ := hlists sources hdiscover
    exact ⟨items, rfl, hitems, (hitems.mem_iff _).mpr (by decide +kernel),
      (hitems.mem_iff _).mpr (by decide +kernel), (hitems.mem_iff _).not.mpr (by decide +kernel)⟩

/-- A search path whose name is one byte too long leads to nothing, and yet there is no list. -/
theorem discover_overlong :
    ¬ ∀ (t : FileTree) (roots : List Path) (suffixes : List String), t.isSound = true →
      ∃ items, discover t roots suffixes = .ok (items.map (·.2)) ∧
        Lists t suffixes roots items := by
  intro h
  obtain ⟨items, hok, -⟩ := h {} [{ parts := [longName] }] [".json"] rfl
  obtain ⟨e, herror⟩ := discover_eq_error_iff.mpr
    ⟨{ parts := [longName] }, List.mem_singleton_self _, _, overlong_longName⟩
  rw [herror] at hok
  cases hok

end Source

end OrmMapping
