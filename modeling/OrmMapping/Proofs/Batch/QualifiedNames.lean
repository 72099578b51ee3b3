import Mathlib.Data.List.Nodup
import OrmMapping.Proofs.Batch.Listing
import OrmMapping.Proofs.Text.Segments

/-!
# Dotted names of sources

The dotted name of a file is made of the names that lead to it, with dots between them and without
the suffix. Dots within these names, and the letters of the suffix, cannot be told from it: two
files have the same dotted name exactly when their ways, without the suffix, become the same once
each name is divided at its dots. Where no name has a dot and all files have the same suffix, the
dotted name tells which file it is.

* `Path.stemOf_append_suffixOf`: a name in two parts;
* `Source.way`, `Source.bareNames`, `Source.dottedParts`: the way to a file, and what is left of
  it in the dotted name;
* `Source.qualify_eq_iff`: which ways have the same dotted name;
* `Source.exists_ways_of_discover`: what a search of one directory finds;
* `Source.nodup_qualifiedName_iff`: when the dotted names of a search are all different.
-/

namespace OrmMapping

/-- A name is its stem with its suffix. -/
theorem Path.stemOf_append_suffixOf (name : String) : stemOf name ++ suffixOf name = name := by
  have hend : (suffixOf name).toList <:+ name.toList := by
    unfold suffixOf
    rcases Text.exists_append_lastSegmentChars name.toList with hall | ⟨front, hfront⟩
    · simp [hall]
    · simp only
      split
      · simp
      · rw [String.toList_ofList]
        exact ⟨front, hfront.symm⟩
  obtain ⟨front, hfront⟩ := hend
  have hlength : name.toList.length - (suffixOf name).toList.length = front.length := by
    rw [← hfront, List.length_append, Nat.add_sub_cancel]
  apply String.toList_inj.mp
  rw [stemOf, hlength, String.toList_append, String.toList_ofList]
  conv_lhs => rw [← hfront, List.take_left]
  exact hfront

namespace Source

variable {t : FileTree} {root : Path} {suffixes : List String} {place : Place}
  {sources : List Source} {s s' : Source} {names names' : List String}

/-! ## Ways to files -/

/-- The names that lead to the file from where the search began. -/
def way (s : Source) : List String :=
  s.path.parts.drop s.root.parts.length

/-- The names on the way to a file, the last one without its suffix. -/
def bareNames (names : List String) : List String :=
  match names.getLast? with
  | none => []
  | some last => names.dropLast ++ [Path.stemOf last]

/-- What the way to a file becomes when each name is divided at its dots. -/
def dottedParts (names : List String) : List String :=
  (bareNames names).flatMap (Text.splitOn '.')

/-- The dotted name is `bareNames names` joined with dots: `qualify` and `bareNames` treat the last
name alike, and both are empty for no names. -/
theorem qualify_eq_joinWith (names : List String) :
    qualify names = Text.joinWith "." (bareNames names) := by
  unfold qualify bareNames
  cases names.getLast? with
  | none => rfl
  | some last => rfl

/-- Only the last name on a way loses its suffix. -/
theorem bareNames_concat (front : List String) (last : String) :
    bareNames (front ++ [last]) = front ++ [Path.stemOf last] := by
  simp [bareNames]

/-- A way with a name has a bare name, which `Text.splitOn_joinWith` needs: joined from nothing, a
text would still have one part. -/
theorem bareNames_ne_nil (h : names ≠ []) : bareNames names ≠ [] := by
  obtain ⟨front, last, rfl⟩ := (List.eq_nil_or_concat' names).resolve_left h
  rw [bareNames_concat]
  exact List.append_ne_nil_of_right_ne_nil _ (List.cons_ne_nil _ _)

/-- Two ways have the same dotted name exactly when their `dottedParts` are equal. Both ways need a
name (`h`, `h'`), since `qualify` makes the empty text of none. -/
theorem qualify_eq_iff (h : names ≠ []) (h' : names' ≠ []) :
    qualify names = qualify names' ↔ dottedParts names = dottedParts names' := by
  have hparts {ns : List String} (hne : ns ≠ []) :
      Text.splitOn '.' (qualify ns) = dottedParts ns := by
    rw [qualify_eq_joinWith]
    exact Text.splitOn_joinWith (bareNames_ne_nil hne)
  rw [← hparts h, ← hparts h']
  exact ⟨congrArg _, Text.splitOn_injective '.'⟩

/-- Where no bare name has a dot (`hplain`, `hplain'`) and the last names have the same suffix
(`hsuffix`), equal `dottedParts` mean equal ways. -/
theorem eq_of_dottedParts (h : names ≠ []) (h' : names' ≠ [])
    (hplain : ∀ name ∈ bareNames names, '.' ∉ name.toList)
    (hplain' : ∀ name ∈ bareNames names', '.' ∉ name.toList)
    (hsuffix : Path.suffixOf (names.getLast?.getD "") = Path.suffixOf (names'.getLast?.getD ""))
    (hparts : dottedParts names = dottedParts names') : names = names' := by
  -- a name without dots is its own only part
  have hwhole {ns : List String} (hdots : ∀ name ∈ bareNames ns, '.' ∉ name.toList) :
      dottedParts ns = bareNames ns := by
    have hsingle : ∀ name ∈ bareNames ns, Text.splitOn '.' name = [name] :=
      fun name hname => Text.splitOn_of_not_mem (hdots name hname)
    rw [dottedParts, List.flatMap_congr hsingle, List.flatMap_singleton']
  rw [hwhole hplain, hwhole hplain'] at hparts
  obtain ⟨front, last, rfl⟩ := (List.eq_nil_or_concat' names).resolve_left h
  obtain ⟨front', last', rfl⟩ := (List.eq_nil_or_concat' names').resolve_left h'
  rw [bareNames_concat, bareNames_concat] at hparts
  obtain ⟨hfront, hstem⟩ := List.append_inj' hparts (by simp)
  have hlast : last = last' := by
    rw [List.getLast?_concat, List.getLast?_concat, Option.getD_some, Option.getD_some] at hsuffix
    rw [← Path.stemOf_append_suffixOf last, ← Path.stemOf_append_suffixOf last', hsuffix,
      List.singleton_inj.mp hstem]
  rw [hfront, hlast]

/-! ## Searches of one directory -/

/-- `belowDirectory` records the search path as the root, so `way` gives back the names. -/
theorem way_belowDirectory (place : Place) (root : Path) (names : List String) :
    (belowDirectory place root names).2.way = names := by
  simp [belowDirectory, way, Path.join]

/-- What a search path to a directory leads to: the files below its place that have one of the
suffixes. The other two cases of `below_cases` contradict `hroot`. -/
theorem below_of_isDirectory {found : List (Place × Source)} (hroot : t.isDirectory root = true)
    (h : below t suffixes root = .ok found) :
    ∃ place, t.locate root = .ok place ∧ found = ((t.filesBelow place).filter fun names =>
      hasSuffix suffixes (names.getLast?.getD "")).map (belowDirectory place root) := by
  obtain ⟨place, hlocate, hdirectory⟩ := FileTree.isDirectory_iff.mp hroot
  rcases below_cases h with
    ⟨fault, hmissing, -⟩ | ⟨other, hother, hfile, -⟩ | ⟨other, hother, -, -, hfound⟩
  · rw [hlocate] at hmissing
    cases hmissing
  · rw [hlocate] at hother
    cases hother
    obtain ⟨content, hcontent⟩ := FileTree.isFileAt_iff.mp hfile
    rw [hdirectory] at hcontent
    cases hcontent
  · exact ⟨other, hother, hfound⟩

/-- A search of one directory finds each file with one of the suffixes below it by its own way. -/
theorem exists_ways_of_discover (hroot : t.isDirectory root = true)
    (h : discover t [root] suffixes = .ok sources) :
    ∃ (place : Place) (ways : List (List String)), t.locate root = .ok place ∧
      sources = ways.map (fun names => (belowDirectory place root names).2) ∧ ways.Nodup ∧
      ∀ names, names ∈ ways ↔ names ≠ [] ∧ isAt t suffixes (place ++ names) = true := by
  obtain ⟨parts, hparts, rfl⟩ := map_eq_ok.mp h
  simp only [List.mapM_cons, List.mapM_nil, bind_eq_ok, pure_eq_ok] at hparts
  obtain ⟨found, hfound, _, rfl, rfl⟩ := hparts
  rw [List.flatten_singleton, distinct_eq_map_keep]
  obtain ⟨place, hlocate, hlisted⟩ := below_of_isDirectory hroot hfound
  have hsub : (keep [] found).Sublist (((t.filesBelow place).filter fun names =>
      hasSuffix suffixes (names.getLast?.getD "")).map (belowDirectory place root)) := by
    rw [← hlisted]
    exact keep_sublist [] found
  obtain ⟨ways, -, hways⟩ := List.sublist_map_iff.mp hsub
  have hplaces : (keep [] found).map (·.1) = ways.map (place ++ ·) := by
    rw [hways, List.map_map]
    rfl
  -- the ways are read off the places that were kept, which differ, so the ways do as well
  refine ⟨place, ways, hlocate, ?_, ?_, fun names => ?_⟩
  · rw [hways, List.map_map]
    rfl
  · have hnodup := nodup_map_keep [] found
    rw [hplaces] at hnodup
    exact hnodup.of_map
  · -- nothing that was found is left out
    have hkept : names ∈ ways ↔ place ++ names ∈ found.map (·.1) := by
      have hkeep : place ++ names ∈ (keep [] found).map (·.1) ↔
          place ++ names ∈ found.map (·.1) ∧ place ++ names ∉ [] := mem_map_keep_iff
      rw [hplaces, List.mem_map] at hkeep
      simpa using hkeep
    have hfiles : place ++ names ∈ found.map (·.1) ↔ names ∈ t.filesBelow place ∧
        hasSuffix suffixes (names.getLast?.getD "") = true := by
      rw [hlisted, List.map_map, List.mem_map]
      simp [belowDirectory]
    rw [hkept, hfiles, FileTree.mem_filesBelow_iff, and_assoc]
    refine and_congr_right fun hne => ?_
    rw [isAt, Bool.and_eq_true, List.getLast?_append_of_ne_nil _ hne]

/-- The suffix of a source below a directory is that of the last name on its way. -/
theorem suffix_belowDirectory (h : names ≠ []) :
    (belowDirectory place root names).2.path.suffix =
      Path.suffixOf (names.getLast?.getD "") := by
  rw [belowDirectory, Path.suffix, Path.name, Path.join, List.getLast?_append_of_ne_nil _ h]

/-- A search of one directory never lists a source twice. Two of its sources have the same dotted
name exactly when their ways are the same once each name is divided at its dots, the suffix left
out; so the dotted names are all different exactly when these parts are, and they are so where no
name has a dot and all files have the same suffix. -/
theorem nodup_qualifiedName_iff (hroot : t.isDirectory root = true)
    (h : discover t [root] suffixes = .ok sources) :
    sources.Nodup ∧
    (∀ s ∈ sources, ∀ s' ∈ sources, s.qualifiedName = s'.qualifiedName ↔
      dottedParts s.way = dottedParts s'.way) ∧
    ((sources.map (·.qualifiedName)).Nodup ↔
      (sources.map fun s => dottedParts s.way).Nodup) ∧
    ((∀ s ∈ sources, ∀ name ∈ bareNames s.way, '.' ∉ name.toList) →
      (∀ s ∈ sources, ∀ s' ∈ sources, s.path.suffix = s'.path.suffix) →
        (sources.map (·.qualifiedName)).Nodup) := by
  obtain ⟨place, ways, -, hsources, hways, hmem⟩ := exists_ways_of_discover hroot h
  have hbelow : ∀ s ∈ sources, s.way ≠ [] ∧ s = (belowDirectory place root s.way).2 := by
    rw [hsources]
    intro s hs
    obtain ⟨names, hnames, rfl⟩ := List.mem_map.mp hs
    rw [way_belowDirectory]
    exact ⟨((hmem names).mp hnames).1, rfl⟩
  -- a source tells its way, so different ways give different sources
  have hnodup : sources.Nodup := by
    rw [hsources]
    refine hways.map fun names names' heq => ?_
    rw [← way_belowDirectory place root names, heq, way_belowDirectory]
  have hsame : ∀ s ∈ sources, ∀ s' ∈ sources, s.qualifiedName = s'.qualifiedName ↔
      dottedParts s.way = dottedParts s'.way := by
    intro s hs s' hs'
    obtain ⟨hway, heq⟩ := hbelow s hs
    obtain ⟨hway', heq'⟩ := hbelow s' hs'
    rw [← qualify_eq_iff hway hway', heq, heq']
    simp only [way_belowDirectory]
    rfl
  refine ⟨hnodup, hsame, ?_, ?_⟩
  · rw [List.nodup_map_iff_inj_on hnodup, List.nodup_map_iff_inj_on hnodup]
    refine forall₂_congr fun s hs => forall₂_congr fun s' hs' => ?_
    rw [hsame s hs s' hs']
  · intro hplain hsuffix
    refine (List.nodup_map_iff_inj_on hnodup).mpr fun s hs s' hs' hqualified => ?_
    obtain ⟨hway, heq⟩ := hbelow s hs
    obtain ⟨hway', heq'⟩ := hbelow s' hs'
    have hends := hsuffix s hs s' hs'
    rw [heq, heq', suffix_belowDirectory hway, suffix_belowDirectory hway'] at hends
    have hparts := (hsame s hs s' hs').mp hqualified
    rw [heq, heq', eq_of_dottedParts hway hway' (hplain s hs) (hplain s' hs') hends hparts]

/-- A file in a directory, a file beside the directory that has a dot in its name instead, and one
that neither can be taken for. -/
def twins : FileTree where
  entries := [
    (["models"], .directory),
    (["models", "a"], .directory),
    (["models", "a", "b.json"], .file []),
    (["models", "a.b.json"], .file []),
    (["models", "ab.json"], .file [])]

/-- The source that a search finds by a way below the directory of the twins. -/
def twin (names : List String) : Source :=
  (belowDirectory ["models"] { parts := ["models"] } names).2

/-- The search of `twins` finds all three of its files. `exists_ways_of_discover` reduces this to
where they stand, so the search itself is not computed. -/
theorem exists_discover_twins :
    ∃ sources, discover twins [{ parts := ["models"] }] [".json"] = .ok sources ∧
      twin ["a", "b.json"] ∈ sources ∧ twin ["a.b.json"] ∈ sources ∧
      twin ["ab.json"] ∈ sources := by
  cases hdiscover : discover twins [{ parts := ["models"] }] [".json"] with
  | error e =>
    obtain ⟨root, hroot, hlong⟩ := discover_eq_error hdiscover
    rw [List.mem_singleton.mp hroot] at hlong
    exact absurd hlong (not_overlong_of_isShort (by decide) e)
  | ok sources =>
    obtain ⟨place, ways, hplace, rfl, -, hways⟩ :=
      exists_ways_of_discover (by decide) hdiscover
    have hmodels : twins.locate { parts := ["models"] } = .ok ["models"] := by decide
    rw [hmodels] at hplace
    cases hplace
    exact ⟨_, rfl, List.mem_map_of_mem ((hways _).mpr (by decide)),
      List.mem_map_of_mem ((hways _).mpr (by decide)),
      List.mem_map_of_mem ((hways _).mpr (by decide))⟩

/-- In `twins`, two of the three sources share a dotted name, and the third has another one. -/
theorem nodup_qualifiedName_iff_twins :
    twins.isDirectory { parts := ["models"] } = true ∧
    ∃ sources, discover twins [{ parts := ["models"] }] [".json"] = .ok sources ∧
      sources.Nodup ∧ ¬ (sources.map (·.qualifiedName)).Nodup ∧
      (twin ["a", "b.json"]).qualifiedName = (twin ["a.b.json"]).qualifiedName ∧
      (twin ["ab.json"]).qualifiedName ≠ (twin ["a.b.json"]).qualifiedName := by
  have hroot : twins.isDirectory { parts := ["models"] } = true := by decide
  obtain ⟨sources, hsources, hinside, hbeside, hother⟩ := exists_discover_twins
  obtain ⟨hnodup, hsame, hiff, -⟩ := nodup_qualifiedName_iff hroot hsources
  refine ⟨hroot, sources, hsources, hnodup, ?_, ?_, ?_⟩
  · rw [hiff]
    intro hparts
    have heq := List.inj_on_of_nodup_map hparts hinside hbeside (by decide)
    revert heq
    decide
  · exact (hsame _ hinside _ hbeside).mpr (by decide)
  · exact (hsame _ hother _ hbeside).not.mpr (by decide)

/-- The dotted name `a.b` stands for both of the twins. -/
theorem qualifiedName_shared :
    ¬ ∀ (t : FileTree) (root : Path) (suffix : String) (sources : List Source),
      t.isSound = true → t.isDirectory root = true →
        discover t [root] [suffix] = .ok sources → (sources.map (·.qualifiedName)).Nodup := by
  intro h
  obtain ⟨sources, hsources, hinside, hbeside, -⟩ := exists_discover_twins
  have hnodup := h twins _ ".json" sources (by decide) (by decide +kernel) hsources
  have heq := List.inj_on_of_nodup_map hnodup hinside hbeside (by decide)
  revert heq
  decide

end Source

end OrmMapping
