import Mathlib.Data.List.Induction
import Mathlib.Logic.Function.Basic
import OrmMapping.Proofs.Batch.Apart

/-!
# Batches in turns

Several batches run over one file tree, a step at a time and in any order. When each keeps to a
directory of its own, and none of these contains another one, a batch does what it does on its own:
neither the documents of the others nor the directories made for them make a difference, although it
may search among them. The one exception is a search path that is too long for the system, but leads
nowhere until another batch has made the directory above it.

* `Joint`, `inTurn`: batches after some turns;
* `Joint.Keeps`, `keeps_inTurn`: what holds after any turns;
* `runsAs_inTurn`: a batch among others does what it does on its own;
* `progress_of_overlong`: a batch that begins with a search path that is too long;
* `inTurn_apart`: both together;
* `inTurn_not_apart`: a search path below the directory of another batch.
-/

namespace OrmMapping

/-- Several batches on their way over one file tree. -/
structure Joint (ι : Type) where
  progress : ι → Progress
  tree : FileTree

section States

variable {ι : Type} {settings : ι → Settings} {t : FileTree} {turns : List ι} {x : Joint ι}

/-- A batch among others has done what it does on its own, and the files in a directory are the
same. -/
structure Joint.RunsAs (top : Place) (i : ι) (x : Joint ι) (single : Progress × FileTree) :
    Prop where
  progress : x.progress i = single.1
  tree : FileTree.Alike top single.2 x.tree

/-- What holds of batches that keep to their directories after any turns. -/
structure Joint.Keeps (settings : ι → Settings) (t : FileTree) (turns : List ι) (x : Joint ι) :
    Prop where
  documents : t.HasDocuments x.tree
  isOf : ∀ i, (x.progress i).batch.IsOf (settings i) t
  pending : ∀ i, (x.progress i).batch.stage = .pending → i ∉ turns

/-- A step changes what is below the directory of its batch. -/
theorem Joint.Keeps.stays (h : x.Keeps settings t turns) (hsound : t.isSound = true)
    (hkeeps : ∀ i, (settings i).KeepsTo t) (i : ι) :
    Stays (settings i) t x.tree ((x.progress i).batch.next x.tree) :=
  next_stays (hkeeps i) hsound (h.isOf i) h.documents

end States

variable {ι : Type} [DecidableEq ι]

/-- One batch takes a step. -/
def Joint.turn (x : Joint ι) (i : ι) : Joint ι where
  progress := Function.update x.progress i (Progress.next (x.progress i, x.tree)).1
  tree := (Progress.next (x.progress i, x.tree)).2

/-- Batches that have begun at the same tree, after some turns. -/
def inTurn (settings : ι → Settings) (t : FileTree) (turns : List ι) : Joint ι :=
  turns.foldl Joint.turn ⟨fun i => { batch := { settings := settings i } }, t⟩

/-- Whether no search path of a batch is too long when it has its first turn. -/
def FitsAtFirst (settings : ι → Settings) (t : FileTree) (turns : List ι) (i : ι) : Prop :=
  ∀ before after, turns = before ++ i :: after → i ∉ before →
    (settings i).Fits (inTurn settings t before).tree

variable {settings : ι → Settings} {s : Settings} {r : Roster} {t : FileTree} {i j : ι}
  {turns : List ι} {x : Joint ι} {sources : List Source} {e : BatchError} {fault : FileError}

/-- The last turn comes after all others. -/
theorem inTurn_concat (settings : ι → Settings) (t : FileTree) (turns : List ι) (i : ι) :
    inTurn settings t (turns ++ [i]) = (inTurn settings t turns).turn i := by
  rw [inTurn, List.foldl_append]
  rfl

/-- A turn of a batch is its own next step on the common tree. -/
@[simp] theorem turn_progress_self (x : Joint ι) (i : ι) :
    (x.turn i).progress i = (Progress.next (x.progress i, x.tree)).1 :=
  Function.update_self ..

/-- A turn leaves the progress of every other batch as it is. -/
@[simp] theorem turn_progress_of_ne (h : i ≠ j) (x : Joint ι) :
    (x.turn j).progress i = x.progress i :=
  Function.update_of_ne h ..

/-! ## All turns -/

/-- One turn preserves `Joint.Keeps`. For the batch whose turn it is this is `Joint.Keeps.stays`;
the progress of the others does not change. -/
theorem Joint.Keeps.turn (h : x.Keeps settings t turns) (hsound : t.isSound = true)
    (hkeeps : ∀ i, (settings i).KeepsTo t) (i : ι) :
    (x.turn i).Keeps settings t (turns ++ [i]) := by
  have hstays := h.stays hsound hkeeps i
  refine ⟨hstays.documents, fun j => ?_, fun j hstage => ?_⟩
  · by_cases hj : j = i
    · subst hj
      rw [turn_progress_self]
      exact hstays.isOf
    · rw [turn_progress_of_ne hj]
      exact h.isOf j
  · by_cases hj : j = i
    · subst hj
      rw [turn_progress_self] at hstage
      exact absurd hstage hstays.begun
    · rw [turn_progress_of_ne hj] at hstage
      rw [List.mem_append, List.mem_singleton, not_or]
      exact ⟨h.pending j hstage, hj⟩

/-- `Joint.Keeps` holds after any turns, by induction over the last one. -/
theorem keeps_inTurn (hsound : t.isSound = true) (hkeeps : ∀ i, (settings i).KeepsTo t)
    (turns : List ι) : (inTurn settings t turns).Keeps settings t turns := by
  induction turns using List.reverseRecOn with
  | nil =>
    exact ⟨.refl hsound, fun i => isOf_start (settings i) t, fun _ _ => List.not_mem_nil⟩
  | append_singleton front i ih =>
    rw [inTurn_concat]
    exact ih.turn hsound hkeeps i

/-! ## One batch on its own -/

/-- The last of several steps comes after all others. -/
theorem alone_succ (s : Settings) (t : FileTree) (n : Nat) :
    alone s t (n + 1) = Progress.next (alone s t n) :=
  Function.iterate_succ_apply' ..

/-- A batch that keeps to a directory, after any number of steps on its own: all documents that it
wrote have their places in the directory. -/
theorem alone_located (hkeeps : s.KeepsTo t) (hsound : t.isSound = true) (n : Nat) :
    (alone s t n).1.batch.IsOf s t ∧ t.HasDocuments (alone s t n).2 ∧
      ∀ record ∈ (alone s t n).1.records, ∃ name,
        (alone s t n).2.locate record.documentPath = .ok (t.spelled s.directory ++ [name]) := by
  induction n with
  | zero => exact ⟨isOf_start s t, .refl hsound, fun record hrecord => by cases hrecord⟩
  | succ n ih =>
    obtain ⟨hisOf, hdocuments, hlocated⟩ := ih
    have hstays := next_stays hkeeps hsound hisOf hdocuments
    rw [alone_succ]
    refine ⟨hstays.isOf, hstays.documents, fun record hrecord => ?_⟩
    rw [Progress.records_next] at hrecord
    rcases List.mem_append.mp hrecord with hold | hnew
    · -- documents written before keep their places
      obtain ⟨name, hlocate⟩ := hlocated record hold
      exact ⟨name, hstays.inside.grows.locate hlocate⟩
    · -- a record of this step is the outcome of the step
      refine hstays.located record ?_
      cases houtcome : ((alone s t n).1.batch.next (alone s t n).2).outcome with
      | error e =>
        rw [houtcome] at hnew
        cases hnew
      | ok record? =>
        rw [houtcome] at hnew
        exact congrArg Except.ok (Option.mem_toList.mp hnew)

/-! ## One batch among others -/

/-- What holds of the first turn among `turns ++ [j]` holds of it among `turns`. -/
theorem FitsAtFirst.of_concat (h : FitsAtFirst settings t (turns ++ [j]) i) :
    FitsAtFirst settings t turns i := by
  intro before after hturns hnot
  refine h before (after ++ [j]) ?_ hnot
  rw [hturns, List.append_assoc, List.cons_append]

/-- A batch takes the step that it takes on its own. -/
theorem Joint.RunsAs.turn_self {top : Place} {single : Progress × FileTree}
    (h : x.RunsAs top i single)
    (hsame : SameStep top (single.1.batch.next single.2) (single.1.batch.next x.tree)) :
    (x.turn i).RunsAs top i (Progress.next single) := by
  constructor
  · rw [turn_progress_self]
    simp only [Progress.next, Progress.after, h.progress, hsame.log, hsame.outcome, hsame.batch]
  · simp only [Joint.turn, Progress.next, h.progress]
    exact hsame.tree

/-- Whatever the turns, a batch does what it does on its own, as long as no search path is too long
at its first turn (`hfits`). By induction over the last turn: it is one of the batch itself, or it
happens inside the directory of another batch, which `hapart` keeps away. -/
theorem runsAs_inTurn (hsound : t.isSound = true) (hkeeps : ∀ i, (settings i).KeepsTo t)
    (hapart : ∀ i j, i ≠ j →
      ¬ t.spelled (settings i).directory <+: t.spelled (settings j).directory)
    (i : ι) (turns : List ι) (hfits : FitsAtFirst settings t turns i) :
    (inTurn settings t turns).RunsAs (t.spelled (settings i).directory) i
      (alone (settings i) t (turns.count i)) := by
  induction turns using List.reverseRecOn with
  | nil => exact ⟨rfl, .refl _ t⟩
  | append_singleton front j ih =>
    have hruns := ih hfits.of_concat
    have hjoint := keeps_inTurn hsound hkeeps front
    rw [inTurn_concat, List.count_append, List.count_singleton]
    by_cases hj : i = j
    · -- its own turn
      subst hj
      obtain ⟨hisOf, hdocuments, -⟩ := alone_located (hkeeps i) hsound (front.count i)
      rw [BEq.rfl, if_pos rfl, alone_succ]
      refine hruns.turn_self ?_
      refine next_alike (hkeeps i) hsound hisOf hdocuments hjoint.documents hruns.tree ?_
      intro hpending
      rw [← hruns.progress] at hpending
      exact hfits front [] rfl (hjoint.pending i hpending)
    · -- the turn of another batch
      rw [if_neg (by simpa using Ne.symm hj), Nat.add_zero]
      refine ⟨(turn_progress_of_ne hj _).trans hruns.progress, ?_⟩
      exact hruns.tree.of_inside (hjoint.stays hsound hkeeps j).inside (hapart i j hj)
        (hapart j i (Ne.symm hj))

/-! ## A search path that is too long -/

/-- A batch without a turn is where it began. -/
theorem progress_of_not_mem (settings : ι → Settings) (t : FileTree) (h : i ∉ turns) :
    (inTurn settings t turns).progress i = { batch := { settings := settings i } } := by
  induction turns using List.reverseRecOn with
  | nil => rfl
  | append_singleton front j ih =>
    rw [List.mem_append, List.mem_singleton, not_or] at h
    rw [inTurn_concat, turn_progress_of_ne h.2, ih h.1]

/-- A batch that is at its end gives nothing more. -/
theorem progress_of_finished (hfinished : (x.progress i).batch = ⟨s, .finished⟩)
    (turns : List ι) :
    (turns.foldl Joint.turn x).progress i =
      { x.progress i with
        outcomes := (x.progress i).outcomes ++ List.replicate (turns.count i) (.ok none) } := by
  induction turns using List.reverseRecOn with
  | nil => simp
  | append_singleton front j ih =>
    rw [List.foldl_append, List.foldl_cons, List.foldl_nil, List.count_append,
      List.count_singleton]
    by_cases hj : i = j
    · subst hj
      rw [turn_progress_self, BEq.rfl, if_pos rfl, List.replicate_succ', ← List.append_assoc]
      simp only [Progress.next, Progress.after, ih, hfinished, Batch.next, List.append_nil]
    · rw [turn_progress_of_ne hj, if_neg (by simpa using Ne.symm hj), Nat.add_zero, ih]

/-- When a search path is too long at the first turn of a batch, the batch ends with the error of
the system for it. -/
theorem progress_of_overlong {before : List ι} (hnot : i ∉ before)
    (hlong : ¬ (settings i).Fits (inTurn settings t before).tree) (after : List ι) :
    ∃ root ∈ (settings i).searchPaths, ∃ fault,
      Overlong (inTurn settings t before).tree root fault ∧
      (fault.path.TooLong ∨ ¬ fault.path.NullFree) ∧
      (inTurn settings t (before ++ i :: after)).progress i =
        { batch := ⟨settings i, .finished⟩, log := [],
          outcomes := .error (.unusablePath fault) ::
            List.replicate (after.count i) (.ok none) } := by
  simp only [Settings.Fits, not_forall, not_not] at hlong
  obtain ⟨root, hroot, fault, hfault⟩ := hlong
  obtain ⟨root, hroot, fault, hfault, hpath, hdiscover⟩ :=
    discover_of_overlong ⟨root, hroot, fault, hfault⟩
  refine ⟨root, hroot, fault, hfault, hpath, ?_⟩
  -- up to its first turn the batch stands at its beginning, and discovery fails for the path
  have hbegin := progress_of_not_mem settings t hnot
  have hfirst : ((inTurn settings t before).turn i).progress i =
      { batch := ⟨settings i, .finished⟩, log := [],
        outcomes := [.error (.unusablePath fault)] } := by
    rw [turn_progress_self, hbegin]
    simp only [Progress.next, Progress.after, Batch.next, hdiscover, List.nil_append]
  have hturns : inTurn settings t (before ++ i :: after) =
      after.foldl Joint.turn ((inTurn settings t before).turn i) := by
    rw [inTurn, List.foldl_append, List.foldl_cons]
    rfl
  rw [hturns, progress_of_finished (congrArg Progress.batch hfirst), hfirst]
  rfl

/-! ## Other errors -/

/-- The error for a search path that is too long is always `nameTooLong`, also where the name stands
below it. -/
theorem Overlong.fault_eq {root : Path} (h : Overlong t root fault) :
    fault.fault = .nameTooLong := by
  cases h <;> rfl

/-- The errors that end discovery are those of its sources. -/
theorem isPromised_of_enterAll (hpaths : ∀ source ∈ sources, FileTree.pathFault? source.path = none)
    (h : (Roster.enterAll s t r sources).outcome = .error e) : e.isPromised = true := by
  induction sources generalizing r with
  | nil => cases h
  | cons source rest ih =>
    obtain ⟨hpath, hrest⟩ := List.forall_mem_cons.mp hpaths
    cases hstep : r.enter s t source with
    | ok next =>
      simp only [Roster.enterAll, hstep] at h
      exact ih hrest h
    | error e' =>
      simp only [Roster.enterAll, hstep] at h
      -- the error ends discovery, or the source is left out
      split at h
      · cases h
        exact enter_promised hpath hstep
      · exact ih hrest h

/-- Past discovery, no step ends with `unusablePath` for a name that is too long: an error in
writing is reported as such, except for a null character. -/
theorem advance_ne_tooLong (hlong : fault.fault = .nameTooLong) (s : Settings) (r : Roster)
    (t : FileTree) (cs : List Candidate) :
    (Batch.advance s r t cs).outcome ≠ .error (.unusablePath fault) := by
  induction cs with
  | nil =>
    intro h
    cases h
  | cons c rest ih =>
    rcases attempt_cases s r t c with
      ⟨w, -, -, hattempt⟩ | ⟨w, e, -, -, hattempt⟩ | ⟨e, -, -, hattempt⟩ | ⟨e, -, -, hattempt⟩
    · simp only [Batch.advance, hattempt]
      intro h
      cases h
    · -- of the paths of documents, only one with a null character is reported in this way
      simp only [Batch.advance, hattempt, Rendering.writeError]
      split
      · next hnull =>
        intro h
        cases h
        rw [hlong] at hnull
        cases hnull
      · intro h
        cases h
    · simp only [Batch.advance, hattempt]
      exact ih
    · simp only [Batch.advance, hattempt]
      intro h
      cases h

/-- When no search path is too long, the first step does not end with `unusablePath` for a name that
is too long. -/
theorem next_ne_tooLong (hfits : s.Fits t) (hlong : fault.fault = .nameTooLong) :
    (Batch.next { settings := s } t).outcome ≠ .error (.unusablePath fault) := by
  obtain ⟨sources, hsources⟩ := exists_discover_eq_ok hfits
  cases hr : (discover s t).outcome with
  | ok r =>
    simp only [Batch.next, hr]
    exact advance_ne_tooLong hlong s r t _
  | error e =>
    simp only [Batch.next, hr]
    rw [discover_eq_enterAll hsources] at hr
    have hpromised := isPromised_of_enterAll
      (fun source hsource => Source.pathFault?_of_discover hsources hsource) hr
    intro h
    cases h
    cases hpromised

/-- The first outcome of several steps is that of the first step. -/
theorem head?_outcomes_alone (s : Settings) (t : FileTree) (n : Nat) :
    (alone s t (n + 1)).1.outcomes.head? = some (Batch.next { settings := s } t).outcome := by
  induction n with
  | zero => rfl
  | succ n ih =>
    rw [alone_succ]
    simp only [Progress.next, Progress.after, List.head?_append, ih, Option.some_or]

/-- When a batch fits on the tree that all began with (`hfits`) and ends up as on its own (`hsame`),
no search path was too long at its first turn: that would have given another first outcome. -/
theorem fitsAtFirst_of_progress (hfits : (settings i).Fits t)
    (hsame : (inTurn settings t turns).progress i = (alone (settings i) t (turns.count i)).1) :
    FitsAtFirst settings t turns i := by
  intro before after hturns hnot
  by_contra hlong
  obtain ⟨root, -, fault, hfault, -, hended⟩ := progress_of_overlong hnot hlong after
  have hcount : turns.count i = after.count i + 1 := by
    rw [hturns, List.count_append, List.count_eq_zero_of_not_mem hnot, List.count_cons_self,
      Nat.zero_add]
  rw [← hturns, hsame, hcount] at hended
  have hhead := congrArg (fun p : Progress => p.outcomes.head?) hended
  dsimp only at hhead
  rw [head?_outcomes_alone, List.head?_cons] at hhead
  exact next_ne_tooLong hfits hfault.fault_eq (Option.some.inj hhead)

/-! ## Both together -/

/-- Take files as a system keeps them, and any number of batches that search for no files with the
suffix of documents, have no step up in their paths and no slash in their entity names, each with a
directory for its documents that neither contains nor is contained in that of another. Whatever
turns they take, and whatever they search, each of them has done the same as on its own: its
records, its log and its error are the same, and so are the documents of its records and everything
else in its directory. The exception is a batch one of whose search paths is too long when it has
its first turn: it ends with the error of the system for that path and does nothing. That differs
from what it does on its own, unless the path was too long from the start. -/
theorem inTurn_apart (settings : ι → Settings) (t : FileTree) (hsound : t.isSound = true)
    (hkeeps : ∀ i, (settings i).KeepsTo t)
    (hapart : ∀ i j, i ≠ j →
      ¬ t.spelled (settings i).directory <+: t.spelled (settings j).directory)
    (turns : List ι) (i : ι) :
    let joint := inTurn settings t turns
    let single := alone (settings i) t (turns.count i)
    (FitsAtFirst settings t turns i →
      joint.progress i = single.1 ∧
      (∀ names, joint.tree.lookup? (t.spelled (settings i).directory ++ names) =
        single.2.lookup? (t.spelled (settings i).directory ++ names)) ∧
      ∀ record ∈ single.1.records,
        joint.tree.read record.documentPath = single.2.read record.documentPath) ∧
    (¬ FitsAtFirst settings t turns i →
      ∃ before after, turns = before ++ i :: after ∧ i ∉ before ∧
        ∃ root ∈ (settings i).searchPaths, ∃ fault,
          Overlong (inTurn settings t before).tree root fault ∧
          (fault.path.TooLong ∨ ¬ fault.path.NullFree) ∧
          joint.progress i =
            { batch := ⟨settings i, .finished⟩, log := [],
              outcomes := .error (.unusablePath fault) ::
                List.replicate (after.count i) (.ok none) }) ∧
    ((settings i).Fits t → (joint.progress i = single.1 ↔ FitsAtFirst settings t turns i)) := by
  intro joint single
  refine ⟨?_, ?_, fun hfits => ⟨fitsAtFirst_of_progress hfits, fun hfirst => ?_⟩⟩
  · intro hfits
    -- no search path is too long at the first turn
    have hruns := runsAs_inTurn hsound hkeeps hapart i turns hfits
    obtain ⟨-, -, hlocated⟩ := alone_located (hkeeps i) hsound (turns.count i)
    refine ⟨hruns.progress, hruns.tree.below, fun record hrecord => ?_⟩
    obtain ⟨name, hlocate⟩ := hlocated record hrecord
    exact hruns.tree.read hlocate
  · intro hlong
    -- one is, and the batch ends with its error
    simp only [FitsAtFirst, not_forall] at hlong
    obtain ⟨before, after, hturns, hnot, hlong⟩ := hlong
    refine ⟨before, after, hturns, hnot, ?_⟩
    have hended := progress_of_overlong hnot hlong after
    rw [← hturns] at hended
    exact hended
  · exact (runsAs_inTurn hsound hkeeps hapart i turns hfirst).progress

/-- Settings of two batches that search the showroom and the directory of the first one. -/
def showroomPair : Bool → Settings
  | true => showroomSettings
  | false => { showroomSettings with outputDir := some { parts := ["other"] } }

/-- The record of the class in the second batch. -/
def otherRecord : EntityRecord :=
  { showroomRecord with documentPath := { parts := ["other", "Car.hbm.xml"] } }

/-- Both batches find the one class of the showroom. -/
theorem discover_showroomPair (i : Bool) :
    (discover (showroomPair i) showroom).outcome.toOption.map
      (fun r => r.candidates.map (·.entityName)) = some ["Car"] := by
  cases i <;> decide +kernel

/-- Their directories have names that are no steps up and not too long. -/
theorem isPlain_directory_showroomPair (i : Bool) :
    ∀ name ∈ (showroomPair i).directory.parts, FileTree.IsPlain name := by
  cases i <;> exact List.forall_mem_singleton.mpr ⟨by decide, by decide⟩

/-- Neither directory contains the other. -/
theorem apart_showroomPair : ∀ i j : Bool, i ≠ j →
    ¬ showroom.spelled (showroomPair i).directory <+:
      showroom.spelled (showroomPair j).directory := by
  decide

/-- No entity name in the showroom has a slash. -/
theorem entityName_showroom {s : Settings} {r : Roster} {i : Bool}
    (hsame : discover s showroom = discover (showroomPair i) showroom)
    (hr : (discover s showroom).outcome = .ok r) :
    ∀ c ∈ r.candidates, '/' ∉ c.entityName.toList := by
  have hnames := discover_showroomPair i
  rw [← hsame, hr] at hnames
  have hcar : r.candidates.map (·.entityName) = ["Car"] := Option.some.inj hnames
  intro c hc
  have hmem : c.entityName ∈ ["Car"] := hcar ▸ List.mem_map_of_mem hc
  rw [List.mem_singleton.mp hmem]
  decide

/-- Each of the two batches keeps to its directory. -/
theorem keepsTo_showroomPair (i : Bool) : (showroomPair i).KeepsTo showroom := by
  refine ⟨?_, ?_, ?_, isPlain_directory_showroomPair i, fun r hr => entityName_showroom rfl hr⟩
  · cases i <;> rfl
  · cases i <;> decide
  · cases i <;> decide

/-- The second batch begins after the first one has taken a step, finds what it searches for, and
gives its record. -/
theorem inTurn_showroomPair :
    (discover (showroomPair false)
        (inTurn showroomPair showroom [true]).tree).outcome.toOption.isSome = true ∧
      ((inTurn showroomPair showroom [true, false]).progress false).records = [otherRecord] := by
  decide +kernel

/-- The only first turn of the second batch. -/
theorem before_eq_of_second {before after : List Bool}
    (hturns : [true, false] = before ++ false :: after) (hnot : false ∉ before) :
    before = [true] := by
  match before, hturns with
  | [first], hturns => rw [(List.cons.inj hturns).1]
  | first :: second :: rest, hturns =>
    -- its turn would be one of those before
    have hsecond := (List.cons.inj (List.cons.inj hturns).2).1
    rw [← hsecond] at hnot
    exact absurd (List.mem_cons_of_mem _ List.mem_cons_self) hnot

/-- The second batch gives the record that it gives on its own. -/
theorem inTurn_apart_showroom :
    showroom.isSound = true ∧ (∀ i, (showroomPair i).KeepsTo showroom) ∧
      (∀ i j : Bool, i ≠ j → ¬ showroom.spelled (showroomPair i).directory <+:
        showroom.spelled (showroomPair j).directory) ∧
      FitsAtFirst showroomPair showroom [true, false] false ∧
      (alone (showroomPair false) showroom 1).1.records = [otherRecord] := by
  have hsound : showroom.isSound = true := by decide +kernel
  obtain ⟨hfound, hrecords⟩ := inTurn_showroomPair
  have hfits : FitsAtFirst showroomPair showroom [true, false] false := by
    intro before after hturns hnot
    rw [before_eq_of_second hturns hnot]
    obtain ⟨r, hr⟩ := Option.isSome_iff_exists.mp hfound
    exact fits_of_discover (eq_ok_of_toOption hr)
  obtain ⟨hsame, -, -⟩ := (inTurn_apart showroomPair showroom hsound keepsTo_showroomPair
    apart_showroomPair [true, false] false).1 hfits
  rw [hsame] at hrecords
  exact ⟨hsound, keepsTo_showroomPair, apart_showroomPair, hfits, hrecords⟩

/-- A further search path that leads nowhere does not count at discovery. -/
theorem discover_concat_of_missing {root : Path} (hmissing : t.locate root = .error .missing) :
    discover (s.searching (s.searchPaths ++ [root]) s.suffixes) t = discover s t := by
  have hsame : Source.discover t (s.searchPaths ++ [root]) s.suffixes =
      Source.discover t s.searchPaths s.suffixes := Source.discover_concat_of_missing hmissing
  simp only [discover, Settings.searching, hsame]
  split
  · rfl
  · exact enterAll_searching (s.searchPaths ++ [root]) s.suffixes

/-- The same two batches, of which the second one searches for a name that is too long in the
directory of the first one. -/
def longPair : Bool → Settings
  | true => showroomPair true
  | false => (showroomPair false).searching
      ((showroomPair false).searchPaths ++ [longBelowOut]) (showroomPair false).suffixes

/-- The path that is too long leads nowhere in the showroom, so both batches discover what they
discover without it. -/
theorem discover_longPair (i : Bool) :
    discover (longPair i) showroom = discover (showroomPair i) showroom := by
  cases i
  · exact discover_concat_of_missing locate_longBelowOut
  · rfl

/-- With that path too, each batch keeps to its directory: the long name is no step up. -/
theorem keepsTo_longPair (i : Bool) : (longPair i).KeepsTo showroom := by
  cases i with
  | true => exact keepsTo_showroomPair true
  | false =>
    have hpair := keepsTo_showroomPair false
    have hlong : FileTree.up ∉ longBelowOut.parts := by
      rw [show longBelowOut.parts = ["out", longName] from rfl, List.mem_cons, List.mem_singleton,
        not_or]
      exact ⟨by decide, (FileTree.ne_up_of_long long_longName).symm⟩
    exact ⟨hpair.apart, hpair.suffixes,
      List.forall_mem_append.mpr ⟨hpair.roots, List.forall_mem_singleton.mpr hlong⟩,
      hpair.directory, fun r hr => entityName_showroom (discover_longPair false) hr⟩

/-- The directories are those of `showroomPair`. -/
theorem directory_longPair (i : Bool) : (longPair i).directory = (showroomPair i).directory := by
  cases i <;> rfl

/-- The first batch makes its directory, and the second one fails for the path, although it gives
its record on its own. -/
theorem inTurn_not_apart :
    ¬ ∀ (settings : Bool → Settings) (t : FileTree), t.isSound = true →
      (∀ i, (settings i).KeepsTo t) →
      (∀ i j, i ≠ j → ¬ t.spelled (settings i).directory <+: t.spelled (settings j).directory) →
      ∀ turns i, (inTurn settings t turns).progress i =
        (alone (settings i) t (turns.count i)).1 := by
  intro h
  have hsound : showroom.isSound = true := by decide +kernel
  have hapart : ∀ i j, i ≠ j → ¬ showroom.spelled (longPair i).directory <+:
      showroom.spelled (longPair j).directory := by
    intro i j hne
    rw [directory_longPair, directory_longPair]
    exact apart_showroomPair i j hne
  have hsame := h longPair showroom hsound keepsTo_longPair hapart [true, false] false
  have hfits : (longPair false).Fits showroom := by
    obtain ⟨names, hr, -⟩ := Option.map_eq_some_iff.mp (discover_showroomPair false)
    rw [← discover_longPair] at hr
    exact fits_of_discover (eq_ok_of_toOption hr)
  -- if it did the same, the path would not be too long at its first turn
  have hfirst := fitsAtFirst_of_progress hfits hsame [true] [] rfl (by decide)
  have hgrows : showroom.Grows (inTurn longPair showroom [true]).tree :=
    (keeps_inTurn hsound keepsTo_longPair [true]).documents.adds.grows
  have hout : (inTurn longPair showroom [true]).tree.lookup? ["out"] = some .directory := by
    decide +kernel
  exact hfirst longBelowOut (List.mem_append_right _ (List.mem_singleton_self _)) _
    (overlong_longBelowOut hgrows hout)

end OrmMapping
