import Mathlib.Data.List.Find
import OrmMapping.Proofs.Batch.References
import OrmMapping.Proofs.Batch.Written
import OrmMapping.Proofs.Files.Growth

/-!
# Documents in the files

When a batch returns, the file of a record holds the document that was last written there. That is
the record's own document as long as no later record goes to the same place. Entity names that
differ do not ensure that: a name with a slash is a path of its own, and different paths can lead to
one place. Names without slashes do, whatever the directories.

* `Holds`, `Lands.holds`: what the files hold after some writings;
* `document_of_record`: what the file of a record holds, and when it is the record's own;
* `document_not_kept`: two entity names with one file.
-/

namespace OrmMapping

/-- Whether a path leads to a place. -/
def FileTree.leadsTo (t : FileTree) (path : Path) (place : Place) : Bool :=
  match t.locate path with
  | .ok own => own == place
  | .error _ => false

/-- Whether the document of a rendering goes to a place. -/
def Rendering.goesTo (s : Settings) (t : FileTree) (place : Place) (w : Rendering) : Bool :=
  t.leadsTo (w.record s).documentPath place

/-- Of some renderings, the last one whose document goes to a place. -/
def lastAt (s : Settings) (t : FileTree) (place : Place) (ws : List Rendering) : Option Rendering :=
  ws.reverse.find? (·.goesTo s t place)

/-- Files that hold what was written: each document has a place, and a file holds the last document
that went there. -/
structure Holds (s : Settings) (t : FileTree) (ws : List Rendering) : Prop where
  located : ∀ w ∈ ws, ∃ place, t.locate (w.record s).documentPath = .ok place
  content : ∀ place w, lastAt s t place ws = some w →
    t.lookup? place = some (.file w.document.bytes)

variable {s : Settings} {t t' : FileTree} {place : Place} {w v : Rendering} {ws : List Rendering}

/-- Where nothing was written there is nothing to hold. -/
theorem holds_nil (s : Settings) (t : FileTree) : Holds s t [] := by
  constructor
  · intro w hw
    cases hw
  · intro place w hw
    cases hw

/-- A document goes to the place of its path and to no other. -/
theorem goesTo_of_locate {own : Place} (hown : t.locate (w.record s).documentPath = .ok own) :
    w.goesTo s t place = (own == place) := by
  simp only [Rendering.goesTo, FileTree.leadsTo, hown]

/-- The last of `ws ++ [w]` at a place is `w` if it goes there. -/
theorem lastAt_concat (s : Settings) (t : FileTree) (place : Place) (ws : List Rendering)
    (w : Rendering) :
    lastAt s t place (ws ++ [w]) =
      if w.goesTo s t place then some w else lastAt s t place ws := by
  unfold lastAt
  rw [List.reverse_append, List.reverse_singleton, List.singleton_append, List.find?_cons]
  cases w.goesTo s t place <;> rfl

/-- As files are added, paths keep their places (`hlocated`), and so the last document at a place
stays the same. -/
theorem lastAt_of_grows (hgrows : t.Grows t')
    (hlocated : ∀ w ∈ ws, ∃ place, t.locate (w.record s).documentPath = .ok place) :
    lastAt s t' place ws = lastAt s t place ws := by
  have hsame : ∀ w ∈ ws.reverse, w.goesTo s t' place = w.goesTo s t place := by
    intro w hw
    obtain ⟨own, hown⟩ := hlocated w (List.mem_reverse.mp hw)
    have hlater := hgrows.locate hown
    exact (goesTo_of_locate hlater).trans (goesTo_of_locate hown).symm
  exact List.find?_congr hsame

/-- Writing one more document preserves `Holds`: it changes the file at its own place and no other,
and that place has a new last document. -/
theorem Holds.concat (h : Holds s t ws) (hfree : (w.write s t).error? = none) :
    Holds s (w.write s t).tree (ws ++ [w]) := by
  obtain ⟨own, hwrote⟩ := FileTree.writeIn_wrote hfree
  have hgrows : t.Grows (w.write s t).tree := hwrote.grows
  have hown : (w.write s t).tree.locate (w.record s).documentPath = .ok own := hwrote.locate
  constructor
  · intro x hx
    rcases List.mem_append.mp hx with hx | hx
    · obtain ⟨place, hplace⟩ := h.located x hx
      exact ⟨place, hgrows.locate hplace⟩
    · rw [List.mem_singleton.mp hx]
      exact ⟨own, hown⟩
  · intro place x hlast
    rw [lastAt_concat, goesTo_of_locate hown, lastAt_of_grows hgrows h.located] at hlast
    by_cases hplace : own = place
    · -- the new document is the last one here
      subst hplace
      rw [if_pos (by simp)] at hlast
      cases hlast
      exact hwrote.content
    · rw [if_neg (by simpa using hplace)] at hlast
      have hcontent := h.content place x hlast
      exact hwrote.others place _ (fun heq => hplace heq.symm) hcontent

/-- Files that hold `before` hold `before ++ ws` once `ws` are written in turn. -/
theorem Lands.holds {before : List Rendering} (h : Lands s t ws) (hbefore : Holds s t before) :
    Holds s (Rendering.writeAll s t ws) (before ++ ws) := by
  induction h generalizing before with
  | nil t => simpa [Rendering.writeAll] using hbefore
  | cons hfree _ ih =>
    have hrest := ih (hbefore.concat hfree)
    simpa [Rendering.writeAll] using hrest

/-- Every document that was written has a last one at its place, and its path reads that one. -/
theorem Holds.read (h : Holds s t ws) (hw : w ∈ ws) :
    ∃ place last, t.locate (w.record s).documentPath = .ok place ∧
      lastAt s t place ws = some last ∧
      t.read (w.record s).documentPath = .ok last.document.bytes := by
  obtain ⟨place, hplace⟩ := h.located w hw
  have hsome : (lastAt s t place ws).isSome := by
    rw [lastAt, List.find?_isSome]
    exact ⟨w, List.mem_reverse.mpr hw, by simp [goesTo_of_locate hplace]⟩
  obtain ⟨last, hlast⟩ := Option.isSome_iff_exists.mp hsome
  refine ⟨place, last, hplace, hlast, ?_⟩
  simp only [FileTree.read, hplace, h.content place last hlast]

/-! ## Names without slashes -/

/-- The document of an entity whose name has no slash is a file of that name. -/
theorem documentPath_of_not_mem (s : Settings) (source : Path) {name : String}
    (hslash : '/' ∉ name.toList) :
    s.documentPath source name = ⟨(s.outputDirectory source).anchor,
      (s.outputDirectory source).parts ++ [name ++ documentSuffix]⟩ := by
  have hfile : '/' ∉ (name ++ documentSuffix).toList := by
    rw [String.toList_append, List.mem_append]
    rintro (hname | hsuffix)
    · exact hslash hname
    · revert hsuffix
      decide
  -- a name with the ending is neither empty nor a dot, so it stays a step of its own
  have hlength : 8 ≤ (name ++ documentSuffix).length := by
    rw [String.length_append]
    have hsuffix : documentSuffix.length = 8 := by decide
    omega
  have hstep : Path.isStep (name ++ documentSuffix) = true := by
    have hdot : name ++ documentSuffix ≠ "." := by
      intro heq
      rw [heq] at hlength
      revert hlength
      decide
    have hempty : name ++ documentSuffix ≠ "" := by
      intro heq
      rw [heq] at hlength
      revert hlength
      decide
    simp [Path.isStep, hdot, hempty]
  rw [Settings.documentPath, Path.ofString_of_isStep hfile hstep, Path.join]

/-- The name of a document is no step up. -/
theorem documentName_ne_up (name : String) : name ++ documentSuffix ≠ FileTree.up := by
  intro heq
  have hlength := congrArg String.length heq
  rw [String.length_append] at hlength
  have hsuffix : documentSuffix.length = 8 := by decide
  have hup : FileTree.up.length = 2 := by decide
  omega

/-- The place of a document ends with the entity name and the ending, as long as the name has no
slash (`hslash`). -/
theorem place_of_not_mem {source : Path} {name : String} (hslash : '/' ∉ name.toList)
    (hplace : t.locate (s.documentPath source name) = .ok place) :
    ∃ parent, place = parent ++ [name ++ documentSuffix] := by
  rw [documentPath_of_not_mem s source hslash] at hplace
  unfold FileTree.locate at hplace
  split at hplace
  · cases hplace
  · exact FileTree.walk_concat_eq_ok (documentName_ne_up name) hplace

/-- Two entities whose documents go to one place have the same name, as long as neither name has a
slash (`hw`, `hv`). -/
theorem entityName_eq_of_place (hw : '/' ∉ w.entity.entityName.toList)
    (hv : '/' ∉ v.entity.entityName.toList)
    (hplace : t.locate (w.record s).documentPath = .ok place)
    (hsame : t.locate (v.record s).documentPath = .ok place) :
    w.entity.entityName = v.entity.entityName := by
  obtain ⟨parent, hparent⟩ := place_of_not_mem hw hplace
  obtain ⟨other, hother⟩ := place_of_not_mem hv hsame
  have hlast : [w.entity.entityName ++ documentSuffix] = [v.entity.entityName ++ documentSuffix] :=
    (List.append_inj' (hparent.symm.trans hother) rfl).2
  exact (String.append_left_inj documentSuffix).mp (List.singleton_inj.mp hlast)

/-! ## Whole batches -/

/-- A batch that returns leaves files that hold its renderings. -/
theorem holds_renderings {records : List EntityRecord}
    (hok : (generate s t).outcome = .ok records) :
    Holds s (generate s t).tree (renderings s t) := by
  obtain ⟨r, -, hrenderings, hrun⟩ := generate_completes hok
  have hlands : Lands s t (renderings s t) := by
    rw [← written_eq_renderings hok]
    exact lands_written s t
  have hholds := hlands.holds (holds_nil s t)
  rw [hrun.tree, ← hrenderings]
  exact hholds

/-- A batch renders each entity once: two renderings with one entity name (`hname`) are the same,
since their candidates are. -/
theorem rendering_eq_of_entityName {records : List EntityRecord}
    (hok : (generate s t).outcome = .ok records) (hw : w ∈ renderings s t)
    (hv : v ∈ renderings s t) (hname : w.entity.entityName = v.entity.entityName) : w = v := by
  obtain ⟨r, hr, hrenderings, -⟩ := generate_completes hok
  obtain ⟨sources, -, hrepresents, hcollects⟩ := discover_eq_ok hr
  rw [hrenderings] at hw hv
  obtain ⟨hwmem, hwrendered⟩ := mem_filterMap_rendering?.mp hw
  obtain ⟨hvmem, hvrendered⟩ := mem_filterMap_rendering?.mp hv
  have hwname := (Rendering.identity_of_readFrom hwrendered (hcollects.read _ hwmem)).1
  have hvname := (Rendering.identity_of_readFrom hvrendered (hcollects.read _ hvmem)).1
  have hcandidate : w.candidate = v.candidate :=
    hrepresents.eq_of_entityName hwmem hvmem (hwname.symm.trans (hname.trans hvname))
  rw [hcandidate, hvrendered] at hwrendered
  exact (Option.some.inj hwrendered).symm

/-- When a batch returns, the path of every record leads to a place, and reads the document of the
last record whose path leads there. When no entity name has a slash, all these places differ, and
every record's path reads the record's own document. -/
theorem document_of_record (s : Settings) (t : FileTree) (records : List EntityRecord)
    (hok : (generate s t).outcome = .ok records) :
    records = (renderings s t).map (·.record s) ∧
    (∀ w ∈ renderings s t, ∃ place last,
      (generate s t).tree.locate (w.record s).documentPath = .ok place ∧
      lastAt s (generate s t).tree place (renderings s t) = some last ∧
      (generate s t).tree.read (w.record s).documentPath = .ok last.document.bytes) ∧
    ((∀ x ∈ records, '/' ∉ x.entityName.toList) →
      (∀ w ∈ renderings s t,
        (generate s t).tree.read (w.record s).documentPath = .ok w.document.bytes) ∧
      records.Pairwise fun x y =>
        (generate s t).tree.locate x.documentPath ≠
          (generate s t).tree.locate y.documentPath) := by
  obtain ⟨r, hr, hrenderings, hrun⟩ := generate_completes hok
  obtain ⟨sources, -, hrepresents, hcollects⟩ := discover_eq_ok hr
  have hrecords := Except.ok.inj (hok.symm.trans hrun.outcome)
  rw [← hrenderings] at hrecords
  have hholds := holds_renderings hok
  refine ⟨hrecords, fun w hw => hholds.read hw, ?_⟩
  intro hnames
  have hslash : ∀ w ∈ renderings s t, '/' ∉ w.entity.entityName.toList := by
    intro w hw
    refine hnames (w.record s) ?_
    rw [hrecords]
    exact List.mem_map_of_mem hw
  constructor
  · intro w hw
    obtain ⟨place, last, hplace, hlast, hread⟩ := hholds.read hw
    -- the last one at the place has the same name, so it is the same rendering
    have hmem : last ∈ renderings s t :=
      List.mem_reverse.mp (List.mem_of_find?_eq_some hlast)
    obtain ⟨own, hown⟩ := hholds.located last hmem
    have hgoes : last.goesTo s (generate s t).tree place = true := List.find?_some hlast
    rw [goesTo_of_locate hown, beq_iff_eq] at hgoes
    rw [hgoes] at hown
    have hname := entityName_eq_of_place (hslash last hmem) (hslash w hw) hown hplace
    rw [rendering_eq_of_entityName hok hmem hw hname] at hread
    exact hread
  · have hdistinct := pairwise_records hrepresents hcollects.read
    rw [← hrenderings, List.pairwise_map] at hdistinct
    rw [hrecords, List.pairwise_map]
    refine hdistinct.imp_of_mem ?_
    intro w v hw hv hne hsame
    obtain ⟨place, hplace⟩ := hholds.located w hw
    have hname := entityName_eq_of_place (hslash w hw) (hslash v hv) hplace
      (hsame.symm.trans hplace)
    exact hne (congrArg Text.lower hname)

/-- Two classes whose entity names differ by a step that leads nowhere. -/
def coupes : FileTree where
  entries := [
    (["Car.json"], textFile numberedCar),
    (["Coupe.json"], textFile <|
      "\x7b\"name\":\"Coupe\",\"annotations\":\x7b\"entity\":\"./Car\"\x7d,\"properties\":[" ++
        "\x7b\"name\":\"id\",\"annotations\":\x7b\"id\":1\x7d\x7d]\x7d")]

/-- Settings that lead to both. -/
def coupeSettings : Settings where
  searchPaths := [{ parts := ["Car.json"] }, { parts := ["Coupe.json"] }]
  outputDir := some {}

/-- The record of the second class. -/
def coupeRecord : EntityRecord where
  entityName := "./Car"
  qualifiedName := "Coupe"
  sourcePath := { parts := ["Coupe.json"] }
  documentPath := { parts := ["Car.hbm.xml"] }

/-- Whether the path of a rendering reads its own document. -/
def Rendering.isKept (s : Settings) (t : FileTree) (w : Rendering) : Bool :=
  (t.read (w.record s).documentPath).toOption == some w.document.bytes

/-- Both records of `coupes` have the path `Car.hbm.xml`, and only the second rendering is kept
there. -/
theorem generate_coupes :
    (generate coupeSettings coupes).outcome.toOption = some [garageRecord "Car", coupeRecord] ∧
      (renderings coupeSettings coupes).map
        (·.isKept coupeSettings (generate coupeSettings coupes).tree) = [false, true] := by
  decide +kernel

/-- The two coupes share a file, which holds the document of one of them; the garage has a file for
each of its entities. -/
theorem document_of_record_coupes :
    (generate coupeSettings coupes).outcome = .ok [garageRecord "Car", coupeRecord] ∧
      (∀ w ∈ renderings coupeSettings coupes, ∃ last : Rendering,
        (generate coupeSettings coupes).tree.read (w.record coupeSettings).documentPath =
          .ok last.document.bytes) ∧
      (generate (garageSettings true) (garage numberedCar)).outcome =
        .ok [garageRecord "Car", garageRecord "Tyre"] ∧
      (∀ x ∈ [garageRecord "Car", garageRecord "Tyre"], '/' ∉ x.entityName.toList) ∧
      ∀ w ∈ renderings (garageSettings true) (garage numberedCar),
        (generate (garageSettings true) (garage numberedCar)).tree.read
          (w.record (garageSettings true)).documentPath = .ok w.document.bytes := by
  have hcoupes := eq_ok_of_toOption generate_coupes.1
  have hgarage := generate_numberedCar.1
  have hnames : ∀ x ∈ [garageRecord "Car", garageRecord "Tyre"], '/' ∉ x.entityName.toList := by
    decide
  obtain ⟨-, hlast, -⟩ := document_of_record _ _ _ hcoupes
  obtain ⟨-, -, hown⟩ := document_of_record _ _ _ hgarage
  refine ⟨hcoupes, ?_, hgarage, hnames, (hown hnames).1⟩
  intro w hw
  obtain ⟨place, last, -, -, hread⟩ := hlast w hw
  exact ⟨last, hread⟩

/-- The document of the first one is lost. -/
theorem document_not_kept :
    ¬ ∀ (s : Settings) (t : FileTree) (records : List EntityRecord),
      (generate s t).outcome = .ok records → ∀ w ∈ renderings s t,
        (generate s t).tree.read (w.record s).documentPath = .ok w.document.bytes := by
  intro h
  have hkept := h _ _ _ (eq_ok_of_toOption generate_coupes.1)
  have hall : ∀ b ∈ (renderings coupeSettings coupes).map
      (·.isKept coupeSettings (generate coupeSettings coupes).tree), b = true := by
    intro b hb
    obtain ⟨w, hw, rfl⟩ := List.mem_map.mp hb
    simp only [Rendering.isKept, hkept w hw, Except.toOption, beq_self_eq_true]
  rw [generate_coupes.2] at hall
  have hfirst := hall false List.mem_cons_self
  cases hfirst

end OrmMapping
