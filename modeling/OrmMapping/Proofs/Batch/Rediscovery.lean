import OrmMapping.Batch.Run
import OrmMapping.Proofs.Batch.Sources
import OrmMapping.Proofs.Files.Listing
import OrmMapping.Proofs.Text.Casing

/-!
# Discovery among documents

Documents that are written below the search paths are not taken for sources, and the directories
made for them lead to none: as long as their suffix is not one of those searched for, and no search
path has a step up, a search finds the same sources before and after. The sources hold the same.

* `IsDocumentPlace`, `hasSuffix_document`: the names of documents;
* `Settings.map_lower_suffixes`: the suffixes of settings as they are compared;
* `below_again`: what one search path leads to;
* `discover_again`, `read_again`: all sources, and their contents.
-/

namespace OrmMapping

/-- Whether a place has the name of a document. -/
def IsDocumentPlace (place : Place) : Prop :=
  ∃ above stem, place = above ++ [stem ++ documentSuffix]

variable {t t' : FileTree} {suffixes : List String} {root : Path} {roots : List Path}
  {place : Place} {fault : FileFault} {source : Source} {sources sources' : List Source}
  {found found' : List (Place × Source)}

/-! ## Suffixes -/

namespace Settings

/-- A suffix that settings read is in lower case already: a given one is lowered whole, or a dot,
which has no case, is put before it. -/
theorem lower_dottedSuffix (written : String) :
    Text.lower (dottedSuffix written) = dottedSuffix written := by
  unfold dottedSuffix
  dsimp only
  split
  · exact Text.lower_lower written
  · refine Text.lower_of_isLowered fun c hc => ?_
    rw [String.toList_append] at hc
    rcases List.mem_append.mp hc with hdot | hlower
    · cases List.mem_singleton.mp hdot
      exact Text.isLowered_of_lt (by decide) (by decide)
    · exact Text.isLowered_of_mem_lower hlower

/-- Settings that are read from named values have their suffixes in lower case, as a search compares
them. -/
theorem map_lower_suffixes {entries : Keyed Value} {s : Settings} (h : ofEntries entries = .ok s) :
    s.suffixes.map Text.lower = s.suffixes := by
  unfold ofEntries at h
  obtain ⟨⟨searchPaths, outputDir, beside, failFast, datasource, suffixes, quoted⟩, hfields, rfl⟩ :=
    map_eq_ok.mp h
  simp only [Checked.both_eq_ok] at hfields
  obtain ⟨-, -, -, -, -, hsuffixes, -⟩ := hfields
  show suffixes.map Text.lower = suffixes
  unfold fieldOr at hsuffixes
  -- without a value the suffix is the default
  split at hsuffixes
  · cases hsuffixes
    decide
  · -- a value is made of suffixes with their dots
    unfold checkSuffixes at hsuffixes
    split at hsuffixes
    · obtain ⟨written, -, rfl⟩ := map_eq_ok.mp hsuffixes
      rw [List.map_map]
      exact List.map_congr_left fun w _ => lower_dottedSuffix w
    · cases hsuffixes

end Settings

/-- The suffix of a document is the last part of its ending. -/
theorem suffixOf_document (stem : String) : Path.suffixOf (stem ++ documentSuffix) = ".xml" := by
  have hlist : (stem ++ documentSuffix).toList =
      stem.toList ++ ['.', 'h', 'b', 'm', '.', 'x', 'm', 'l'] := by
    rw [String.toList_append]
    rfl
  have hafter : Text.lastSegmentChars (stem ++ documentSuffix).toList = ['x', 'm', 'l'] := by
    rw [hlist]
    simp [Text.lastSegmentChars]
  have hlong : ¬ (stem ++ documentSuffix).toList.length ≤ 4 := by
    rw [hlist, List.length_append]
    simp
  simp only [Path.suffixOf, hafter, List.isEmpty_cons, Bool.false_or, decide_eq_true_eq,
    List.length_cons, List.length_nil, hlong, if_false]

/-- A document does not have the suffix of a source when `.xml` is none of these. -/
theorem hasSuffix_document (hxml : ".xml" ∉ suffixes.map Text.lower) (stem : String) :
    Source.hasSuffix suffixes (stem ++ documentSuffix) = false := by
  have hlower : Text.lower ".xml" = ".xml" := by decide
  rw [Source.hasSuffix, suffixOf_document, hlower]
  simpa using hxml

/-- The last name of a document's place has no suffix of a source. -/
theorem hasSuffix_of_isDocumentPlace (hxml : ".xml" ∉ suffixes.map Text.lower)
    (h : IsDocumentPlace place) : Source.hasSuffix suffixes (place.getLast?.getD "") = false := by
  obtain ⟨above, stem, rfl⟩ := h
  rw [List.getLast?_concat, Option.getD_some, hasSuffix_document hxml]

/-- The last of the names that lead from `place` to a document has no suffix of a source. `hne` says
that it is the last name of the document's place as well. -/
theorem hasSuffix_below {names : List String} (hxml : ".xml" ∉ suffixes.map Text.lower)
    (hne : names ≠ []) (h : IsDocumentPlace (place ++ names)) :
    Source.hasSuffix suffixes (names.getLast?.getD "") = false := by
  have hsuffix := hasSuffix_of_isDocumentPlace hxml h
  rw [List.getLast?_append_of_ne_nil _ hne] at hsuffix
  exact hsuffix

/-! ## One search path -/

/-- A search path that was too long stays so while files are added. -/
theorem Overlong.of_grows {e : FileError} (h : Overlong t root e) (hgrows : t.Grows t') :
    Overlong t' root e := by
  cases h with
  | itself long =>
    refine .itself ?_
    unfold FileTree.locate at long ⊢
    cases hfault : FileTree.pathFault? root with
    | some fault =>
      rw [hfault] at long
      exact long
    | none =>
      rw [hfault] at long
      rw [hgrows.start]
      exact hgrows.walk_nameTooLong long
  | @below place names locate directory mem long =>
    obtain ⟨hne, hkey⟩ := FileTree.mem_allBelow_iff.mp mem
    -- the long name is still there, below the same place
    have hsome := hgrows.isSome (FileTree.isSome_of_mem_keys hkey)
    refine .below (hgrows.locate locate) ?_ (FileTree.mem_allBelow_iff.mpr ⟨hne, ?_⟩) long
    · rw [FileTree.isFileAt_of_grows hgrows (FileTree.isSome_of_locate locate), directory]
    · exact FileTree.mem_keys_of_isSome (by simp [hne]) hsome

namespace Source

/-- A search path without steps up (`hup`) leads to files of its own name. -/
theorem getLast_of_walk (hstart : t.lookup? (t.start root) = some .directory)
    (hup : FileTree.up ∉ root.parts) (h : t.locate root = .ok place)
    (hfile : t.isFileAt place = true) : place.getLast?.getD "" = root.name := by
  have hplace := FileTree.eq_append_of_walk hup (FileTree.walk_of_locate h)
  have hne : root.parts ≠ [] := by
    intro hnil
    -- the path would lead to where it starts, which is no file
    rw [hplace, hnil, List.append_nil] at hfile
    simp [FileTree.isFileAt, hstart] at hfile
  rw [hplace, List.getLast?_append_of_ne_nil _ hne, Path.name]

/-- Where a search path leads to nothing, nothing stands at the place that it spells. Without steps
up (`hup`) that place is the one that the path leads to once files were added. -/
theorem lookup?_of_missing (hsound : t.isSound = true) (hgrows : t.Grows t')
    (hup : FileTree.up ∉ root.parts) (h : t.locate root = .error fault)
    (h' : t'.locate root = .ok place) : t.lookup? place = none := by
  have hfree := pathFault?_of_locate h'
  simp only [FileTree.locate, hfree, hgrows.start] at h h'
  obtain ⟨front, back, hparts, hnone⟩ := FileTree.exists_missing hgrows hup h h'
  rw [FileTree.eq_append_of_walk hup h', hparts, ← List.append_assoc]
  exact FileTree.nothing_below hsound hnone back

/-- A search path that led nowhere leads to no source among documents: whatever it leads to now was
added (`hadds`), and an added file is a document. -/
theorem below_of_missing (hsound : t.isSound = true) (hadds : t.Adds IsDocumentPlace t')
    (hxml : ".xml" ∉ suffixes.map Text.lower) (hup : FileTree.up ∉ root.parts)
    (h : t.locate root = .error fault) (hbelow : below t' suffixes root = .ok found) :
    found = [] := by
  have hnew : ∀ place names, t'.locate root = .ok place → t'.isFileAt (place ++ names) = true →
      IsDocumentPlace (place ++ names) := by
    intro place names hlocate hfile
    have hnone := lookup?_of_missing hsound hadds.grows hup h hlocate
    obtain ⟨content, hcontent⟩ := FileTree.isFileAt_iff.mp hfile
    exact hadds.kind_of_new (FileTree.nothing_below hsound hnone names) hcontent
  rcases below_cases hbelow with
    ⟨fault, -, rfl⟩ | ⟨place, hlocate, hfile, rfl⟩ | ⟨place, hlocate, -, -, rfl⟩
  · rfl
  · -- the path leads to a document itself
    have hdocument := hnew place [] hlocate (by simpa using hfile)
    rw [List.append_nil] at hdocument
    have hstart : t'.lookup? (t'.start root) = some .directory := by
      rw [hadds.grows.start]
      exact hadds.grows.directory _ (FileTree.directory_start hsound root)
    have hsuffix := hasSuffix_of_isDocumentPlace hxml hdocument
    rw [getLast_of_walk hstart hup hlocate hfile] at hsuffix
    rw [hsuffix]
    rfl
  · -- all files below the path are documents
    rw [List.map_eq_nil_iff, List.filter_eq_nil_iff]
    intro names hnames
    obtain ⟨hbelow, hfile⟩ := List.mem_filter.mp hnames
    have hne := (FileTree.mem_allBelow_iff.mp hbelow).1
    rw [hasSuffix_below hxml hne (hnew place names hlocate hfile)]
    exact Bool.false_ne_true

/-- What a search path leads to among documents is what it led to before. Both searches must come to
their end (`h`, `h'`), since an added directory can make a path too long. -/
theorem below_again (hsound : t.isSound = true) (hadds : t.Adds IsDocumentPlace t')
    (hxml : ".xml" ∉ suffixes.map Text.lower) (hup : FileTree.up ∉ root.parts)
    (h : below t suffixes root = .ok found) (h' : below t' suffixes root = .ok found') :
    found' = found := by
  rcases below_cases h with
    ⟨fault, hlocate, rfl⟩ | ⟨place, hlocate, hfile, rfl⟩ | ⟨place, hlocate, hfile, -, rfl⟩
  · exact below_of_missing hsound hadds hxml hup hlocate h'
  · have hlocate' := hadds.grows.locate hlocate
    have hfile' : t'.isFileAt place = true := by
      rw [FileTree.isFileAt_of_grows hadds.grows (FileTree.isSome_of_locate hlocate), hfile]
    simp only [below, hlocate', hfile', if_true] at h'
    exact (Except.ok.inj h').symm
  · -- a directory stays one, and the files that were added below it are documents
    have hlocate' := hadds.grows.locate hlocate
    have hfile' : t'.isFileAt place = false := by
      rw [FileTree.isFileAt_of_grows hadds.grows (FileTree.isSome_of_locate hlocate), hfile]
    rcases below_cases h' with
      ⟨fault, hfailed, -⟩ | ⟨other, hother, hfile'', -⟩ | ⟨other, hother, -, -, rfl⟩
    · rw [hlocate'] at hfailed
      cases hfailed
    · rw [hlocate'] at hother
      cases hother
      rw [hfile'] at hfile''
      cases hfile''
    · rw [hlocate'] at hother
      cases hother
      rw [FileTree.filter_filesBelow hadds fun names hne h => hasSuffix_below hxml hne h]

/-- A source reads among documents as it did before, since it is no document itself. -/
theorem read_of_mem_below (hsound : t.isSound = true) (hadds : t.Adds IsDocumentPlace t')
    (hxml : ".xml" ∉ suffixes.map Text.lower) (hup : FileTree.up ∉ root.parts)
    (h : below t suffixes root = .ok found) (hmem : (place, source) ∈ found) :
    t'.read source.path = t.read source.path := by
  rcases below_cases h with
    ⟨fault, -, rfl⟩ | ⟨place, hlocate, hfile, rfl⟩ | ⟨place, hlocate, -, hpaths, rfl⟩
  · cases hmem
  · split at hmem
    · next hsuffix =>
      -- the search path is the path of the source
      cases List.mem_singleton.mp hmem
      obtain ⟨content, hcontent⟩ := FileTree.isFileAt_iff.mp hfile
      refine hadds.read hlocate hcontent fun hdocument => ?_
      have hnot := hasSuffix_of_isDocumentPlace hxml hdocument
      rw [getLast_of_walk (FileTree.directory_start hsound root) hup hlocate hfile, hsuffix] at hnot
      cases hnot
    · cases hmem
  · obtain ⟨names, hnames, heq⟩ := List.mem_map.mp hmem
    cases heq
    obtain ⟨hnames, hsuffix⟩ := List.mem_filter.mp hnames
    obtain ⟨hbelow, hfile⟩ := List.mem_filter.mp hnames
    have hne := (FileTree.mem_allBelow_iff.mp hbelow).1
    obtain ⟨content, hcontent⟩ := FileTree.isFileAt_iff.mp hfile
    -- in a sound tree its path leads to it
    have hfound : t.locate (root.join ⟨.workingDirectory, names⟩) = .ok (place ++ names) :=
      FileTree.locate_join hsound hlocate (hpaths names hbelow)
        (by rw [hcontent, Option.isSome_some])
    refine hadds.read hfound hcontent fun hdocument => ?_
    rw [hasSuffix_below hxml hne hdocument] at hsuffix
    cases hsuffix

/-! ## All search paths -/

/-- A search among documents finds the sources that it found before. `h'` says that it comes to its
end, which an added directory can prevent. -/
theorem discover_again (hsound : t.isSound = true) (hadds : t.Adds IsDocumentPlace t')
    (hxml : ".xml" ∉ suffixes.map Text.lower) (hup : ∀ root ∈ roots, FileTree.up ∉ root.parts)
    (h : discover t roots suffixes = .ok sources) (h' : discover t' roots suffixes = .ok sources') :
    sources' = sources := by
  obtain ⟨found, hfound, rfl⟩ := map_eq_ok.mp h
  obtain ⟨found', hfound', rfl⟩ := map_eq_ok.mp h'
  have hsame : found' = found := by
    refine mapM_eq_of_forall hfound hfound' fun root hroot _ _ hbelow hbelow' => ?_
    exact below_again hsound hadds hxml (hup root hroot) hbelow hbelow'
  rw [hsame]

/-- The sources that a search found read among documents as before. -/
theorem read_again (hsound : t.isSound = true) (hadds : t.Adds IsDocumentPlace t')
    (hxml : ".xml" ∉ suffixes.map Text.lower) (hup : ∀ root ∈ roots, FileTree.up ∉ root.parts)
    (h : discover t roots suffixes = .ok sources) (hmem : source ∈ sources) :
    t'.read source.path = t.read source.path := by
  obtain ⟨root, hroot, found, place, hbelow, hsource⟩ := exists_below_of_mem h hmem
  exact read_of_mem_below hsound hadds hxml (hup root hroot) hbelow hsource

end Source

end OrmMapping
