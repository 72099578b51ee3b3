import OrmMapping.Proofs.Batch.References
import OrmMapping.Proofs.Batch.Written

/-!
# Stopping at the first error, and going on

Two batches with the same settings, one that stops at its first error and one that goes on, do the
same until something befalls a class. When nothing does they do the same throughout, and so they do
when a document cannot be written, which ends either of them. Otherwise the second one logs what the
first one stops with, and adds to the log and to the documents of the first.

* `Settings.withFailFast`: the same settings for either kind of batch;
* `attempt_both`, `enterAll_both`: one candidate and all sources in both batches;
* `Continues`, `generate_continues`: what going on adds to a run;
* `generate_failFast_spec`: the two batches compared.
-/

namespace OrmMapping

/-- The same settings for a batch that stops at its first error, or for one that goes on. -/
def Settings.withFailFast (s : Settings) (failFast : Bool) : Settings :=
  { s with failFast }

/-- Whether an error befalls a class alone, so that a batch can go on without it. -/
def BatchError.isSkippable : BatchError → Bool
  | .load _ | .mapping _ => true
  | .write .. | .unusablePath _ => false

/-- A log without errors. -/
def IsQuiet (log : List LogRecord) : Prop :=
  ∀ x ∈ log, x.level = "WARNING"

variable {s : Settings} {r : Roster} {t : FileTree} {c : Candidate} {cs : List Candidate}
  {log : List LogRecord}

/-! ## What does not depend on the kind of batch -/

/-- Mapping a candidate does not count on the kind of batch. -/
theorem mapCandidate_withFailFast (failFast : Bool) :
    mapCandidate (s.withFailFast failFast) r c = mapCandidate s r c := rfl

/-- Entering a source does not count on the kind of batch. -/
theorem enter_withFailFast (failFast : Bool) (source : Source) :
    r.enter (s.withFailFast failFast) t source = r.enter s t source := rfl

/-- Warnings are no errors. -/
theorem isQuiet_warnings (s : Settings) (r : Roster) (c : Candidate) :
    IsQuiet (warnings s r c) := by
  intro x hx
  obtain ⟨notice, -, rfl⟩ := List.mem_map.mp hx
  rfl

/-- Two logs without errors make one without errors. -/
theorem IsQuiet.append {log' : List LogRecord} (h : IsQuiet log) (h' : IsQuiet log') :
    IsQuiet (log ++ log') := by
  intro x hx
  rcases List.mem_append.mp hx with hx | hx
  · exact h x hx
  · exact h' x hx

/-- A document that cannot be written ends either batch. -/
theorem writeError_not_skippable (w : Rendering) (e : FileError) :
    (w.writeError s e).isSkippable = false := by
  unfold Rendering.writeError
  split
  · rfl
  · rfl

/-! ## One candidate -/

/-- A candidate that can be mapped does the same in both batches: its document is written, or cannot
be written. One that cannot ends the first batch and is left out of the second. -/
theorem attempt_both (s : Settings) (r : Roster) (t : FileTree) (c : Candidate) :
    (∃ record t', ∀ failFast, attempt (s.withFailFast failFast) r t c =
      (warnings s r c, .written record t')) ∨
    (∃ (e : BatchError) (t' : FileTree), e.isSkippable = false ∧
      ∀ failFast, attempt (s.withFailFast failFast) r t c = (warnings s r c, .ended e t')) ∨
    (∃ e, (mapCandidate s r c).outcome = .error e ∧
      attempt (s.withFailFast true) r t c = (warnings s r c, .ended (.mapping e) t) ∧
      attempt (s.withFailFast false) r t c =
        (warnings s r c ++ [.skipped c.entityName (.mapping e)], .leftOut e)) := by
  cases houtcome : (mapCandidate s r c).outcome with
  | ok pair =>
    have hsame : ∀ failFast, attempt (s.withFailFast failFast) r t c = attempt s r t c := by
      intro failFast
      simp only [attempt, mapCandidate_withFailFast, houtcome]
      rfl
    rcases attempt_cases s r t c with
      ⟨w, -, -, hattempt⟩ | ⟨w, e, -, -, hattempt⟩ | ⟨e, hfailed, -, -⟩ | ⟨e, hfailed, -, -⟩
    · exact Or.inl ⟨_, _, fun failFast => (hsame failFast).trans hattempt⟩
    · exact Or.inr (Or.inl ⟨_, _, writeError_not_skippable w e,
        fun failFast => (hsame failFast).trans hattempt⟩)
    · rw [houtcome] at hfailed
      cases hfailed
    · rw [houtcome] at hfailed
      cases hfailed
  | error e =>
    refine Or.inr (Or.inr ⟨e, rfl, ?_, ?_⟩)
    · simp only [attempt, mapCandidate_withFailFast, houtcome]
      rfl
    · simp only [attempt, mapCandidate_withFailFast, houtcome]
      rfl

/-! ## Runs -/

/-- What going on adds to a run. Either the two runs are the same, and nothing befell a class. Or
the first one stopped with an error that the second one has as its first, under a label that `P`
allows for it. -/
inductive Continues (P : BatchError → String → Prop) (stopping goingOn : Run) : Prop
  | same (quiet : IsQuiet stopping.log) (equal : goingOn = stopping)
      (whole : ∀ e, stopping.outcome = .error e → e.isSkippable = false)
  | parted (e : BatchError) (label : String) (rest : List LogRecord)
      (quiet : IsQuiet stopping.log) (outcome : stopping.outcome = .error e)
      (skippable : e.isSkippable = true) (befalls : P e label)
      (log : goingOn.log = stopping.log ++ .skipped label e :: rest)

variable {P : BatchError → String → Prop} {stopping goingOn : Run}

/-- A quiet `log` and records that both runs have before do not count. -/
theorem Continues.after (h : Continues P stopping goingOn) (hlog : IsQuiet log)
    (more : List EntityRecord → List EntityRecord) :
    Continues P ⟨log ++ stopping.log, stopping.tree, stopping.outcome.map more⟩
      ⟨log ++ goingOn.log, goingOn.tree, goingOn.outcome.map more⟩ := by
  cases h with
  | same quiet equal whole =>
    refine .same (hlog.append quiet) (by rw [equal]) ?_
    intro e he
    cases houtcome : stopping.outcome with
    | ok records =>
      rw [houtcome] at he
      cases he
    | error other =>
      rw [houtcome] at he
      cases he
      exact whole _ houtcome
  | parted e label rest quiet outcome skippable befalls hgoing =>
    refine .parted e label rest (hlog.append quiet) ?_ skippable befalls ?_
    · rw [outcome]
      rfl
    · rw [hgoing, List.append_assoc]

/-- The run lemma: over the same candidates the two runs are the same, or part at the first
candidate that cannot be mapped, for which `P` allows the error. -/
theorem runAll_continues (s : Settings) (r : Roster) (t : FileTree) (cs : List Candidate)
    (hbefalls : ∀ c ∈ cs, ∀ e, (mapCandidate s r c).outcome = .error e →
      P (.mapping e) c.entityName) :
    Continues P (runAll (s.withFailFast true) r t cs)
      (runAll (s.withFailFast false) r t cs) := by
  induction cs generalizing t with
  | nil =>
    refine .same (fun x hx => ?_) rfl (fun e he => ?_)
    · cases hx
    · cases he
  | cons c rest ih =>
    have hquiet := isQuiet_warnings s r c
    have hrest := fun t => ih t fun x hx => hbefalls x (List.mem_cons_of_mem c hx)
    rcases attempt_both s r t c with
      ⟨record, t', hboth⟩ | ⟨e, t', hfatal, hboth⟩ | ⟨e, hfailed, hstopping, hgoing⟩
    · simp only [runAll, hboth]
      exact (hrest t').after hquiet (record :: ·)
    · simp only [runAll, hboth]
      refine .same hquiet rfl ?_
      intro other hother
      cases hother
      exact hfatal
    · -- this is where the two runs part
      simp only [runAll, hstopping, hgoing]
      refine .parted (.mapping e) c.entityName (runAll (s.withFailFast false) r t rest).log hquiet
        rfl rfl (hbefalls c List.mem_cons_self e hfailed) ?_
      rw [List.append_assoc, List.singleton_append]

/-- The batch that stops writes what the one that goes on begins with. -/
theorem writtenBy_prefix (s : Settings) (r : Roster) (t : FileTree) (cs : List Candidate) :
    writtenBy (s.withFailFast true) r t cs <+: writtenBy (s.withFailFast false) r t cs := by
  induction cs generalizing t with
  | nil => exact List.prefix_rfl
  | cons c rest ih =>
    cases hw : rendering? s r c with
    | none =>
      have hstopping : writtenBy (s.withFailFast true) r t (c :: rest) = [] :=
        writtenBy_cons_failed hw
      rw [hstopping]
      exact List.nil_prefix
    | some w =>
      -- a document that cannot be written ends what either batch writes
      cases hfault : (w.write s t).error? with
      | none =>
        have hboth : ∀ failFast, writtenBy (s.withFailFast failFast) r t (c :: rest) =
            w :: writtenBy (s.withFailFast failFast) r (w.write s t).tree rest :=
          fun failFast => writtenBy_cons_written hw hfault
        rw [hboth, hboth]
        exact (List.prefix_cons_inj w).mpr (ih _)
      | some e =>
        have hstopping : writtenBy (s.withFailFast true) r t (c :: rest) = [] :=
          writtenBy_cons_blocked hw hfault
        rw [hstopping]
        exact List.nil_prefix

/-! ## Discovery -/

/-- What is wrong with a source befalls its class alone. -/
theorem enter_skippable {source : Source} {e : BatchError} (h : r.enter s t source = .error e) :
    e.isSkippable = true := by
  unfold Roster.enter at h
  split at h
  · cases h
    rfl
  · next d _ =>
    split at h
    · cases hregister : (Candidate.of s source d).bind r.register with
      | ok next =>
        rw [hregister] at h
        cases h
      | error e =>
        rw [hregister] at h
        cases h
        rfl
    · cases h

/-- Both batches find the same roster and log nothing, or the first one stops at a source that the
second one leaves out. -/
theorem enterAll_both (s : Settings) (t : FileTree) (r : Roster) (sources : List Source) :
    (∃ r', ∀ failFast, Roster.enterAll (s.withFailFast failFast) t r sources = ⟨[], .ok r'⟩) ∨
    (∃ source ∈ sources, ∃ (r' : Roster) (e : BatchError) (further : Discovery),
      r'.enter s t source = .error e ∧
      Roster.enterAll (s.withFailFast true) t r sources = ⟨[], .error e⟩ ∧
      Roster.enterAll (s.withFailFast false) t r sources =
        ⟨.skipped source.path.text e :: further.log, further.outcome⟩) := by
  induction sources generalizing r with
  | nil => exact Or.inl ⟨r, fun _ => rfl⟩
  | cons source rest ih =>
    cases hstep : r.enter s t source with
    | ok next =>
      have hboth : ∀ failFast, Roster.enterAll (s.withFailFast failFast) t r (source :: rest) =
          Roster.enterAll (s.withFailFast failFast) t next rest := by
        intro failFast
        simp only [Roster.enterAll, enter_withFailFast, hstep]
      simp only [hboth, List.mem_cons]
      -- the batches agree on this source, so they part at a later one if at all
      rcases ih next with hfound | ⟨x, hx, hparted⟩
      · exact Or.inl hfound
      · exact Or.inr ⟨x, Or.inr hx, hparted⟩
    | error e =>
      refine Or.inr ⟨source, List.mem_cons_self, r, e,
        Roster.enterAll (s.withFailFast false) t r rest, hstep, ?_, ?_⟩
      · simp only [Roster.enterAll, enter_withFailFast, hstep]
        rfl
      · simp only [Roster.enterAll, enter_withFailFast, hstep]
        rfl

/-! ## Whole batches -/

/-- What an error befalls: a source, which goes by its path, when it is entered in the roster; or a
candidate, which goes by its entity name, when it is mapped. -/
inductive Befalls (s : Settings) (t : FileTree) : BatchError → String → Prop
  | source {sources : List Source} {source : Source} {r : Roster} {e : BatchError}
      (found : Source.discover t s.searchPaths s.suffixes = .ok sources) (mem : source ∈ sources)
      (failed : r.enter s t source = .error e) : Befalls s t e source.path.text
  | candidate {r : Roster} {c : Candidate} {e : MappingError}
      (found : (discover (s.withFailFast true) t).outcome = .ok r) (mem : c ∈ r.candidates)
      (failed : (mapCandidate s r c).outcome = .error e) : Befalls s t (.mapping e) c.entityName

/-- What discovery does in a batch that stops at its first error and in one that goes on. Both fail
on the search paths, or both find the same roster without an error, or the first stops at a source
that the second leaves out. -/
theorem discover_both (s : Settings) (t : FileTree) :
    (∃ (e : BatchError), e.isSkippable = false ∧ ∀ failFast,
      discover (s.withFailFast failFast) t = ⟨[], .error e⟩) ∨
    (∃ r, ∀ failFast, discover (s.withFailFast failFast) t = ⟨[], .ok r⟩) ∨
    (∃ (e : BatchError) (label : String) (further : Discovery),
      e.isSkippable = true ∧ Befalls s t e label ∧
      discover (s.withFailFast true) t = ⟨[], .error e⟩ ∧
      discover (s.withFailFast false) t = ⟨.skipped label e :: further.log, further.outcome⟩) := by
  cases hsources : Source.discover t s.searchPaths s.suffixes with
  | error e =>
    refine Or.inl ⟨.unusablePath e, rfl, fun failFast => ?_⟩
    have hsame : Source.discover t (s.withFailFast failFast).searchPaths
        (s.withFailFast failFast).suffixes = .error e := hsources
    simp only [discover, hsame]
  | ok sources =>
    have hboth : ∀ failFast, discover (s.withFailFast failFast) t =
        Roster.enterAll (s.withFailFast failFast) t {} sources := by
      intro failFast
      have hsame : Source.discover t (s.withFailFast failFast).searchPaths
          (s.withFailFast failFast).suffixes = .ok sources := hsources
      simp only [discover, hsame]
    simp only [hboth]
    rcases enterAll_both s t {} sources with
      hfound | ⟨source, hmem, r', e, further, hstep, hstopping, hgoing⟩
    · exact Or.inr (Or.inl hfound)
    · exact Or.inr (Or.inr ⟨e, source.path.text, further, enter_skippable hstep,
        .source hsources hmem hstep, hstopping, hgoing⟩)

/-- Over the same files the two batches are the same, or part where something befalls a class. -/
theorem generate_continues (s : Settings) (t : FileTree) :
    Continues (Befalls s t) (generate (s.withFailFast true) t)
      (generate (s.withFailFast false) t) := by
  rcases discover_both s t with
    ⟨e, hfatal, hboth⟩ | ⟨r, hboth⟩ | ⟨e, label, further, hskippable, hbefalls, hstopping, hgoing⟩
  · simp only [generate, hboth]
    refine .same (fun x hx => ?_) rfl ?_
    · cases hx
    · intro other hother
      cases hother
      exact hfatal
  · simp only [generate, hboth, List.nil_append]
    refine runAll_continues s r t r.candidates ?_
    intro c hc e hfailed
    exact .candidate (by rw [hboth]) hc hfailed
  · -- nothing was written or logged before, and the rest of the second batch does not matter
    have hquiet : IsQuiet [] := fun x hx => by cases hx
    have hfirst : generate (s.withFailFast true) t = ⟨[], t, .error e⟩ := by
      simp only [generate, hstopping]
    have hlog : ∃ rest, (generate (s.withFailFast false) t).log = .skipped label e :: rest := by
      simp only [generate, hgoing]
      cases further.outcome with
      | error other => exact ⟨further.log, rfl⟩
      | ok r => exact ⟨further.log ++ _, rfl⟩
    obtain ⟨rest, hrest⟩ := hlog
    rw [hfirst]
    exact .parted e label rest hquiet rfl hskippable hbefalls hrest

/-- The batch that stops has written what the one that goes on begins with. -/
theorem written_prefix (s : Settings) (t : FileTree) :
    written (s.withFailFast true) t <+: written (s.withFailFast false) t := by
  rcases discover_both s t with
    ⟨e, -, hboth⟩ | ⟨r, hboth⟩ | ⟨e, label, further, -, -, hstopping, -⟩
  · simp only [written, hboth]
    exact List.prefix_rfl
  · simp only [written, hboth]
    exact writtenBy_prefix s r t r.candidates
  · have hnone : written (s.withFailFast true) t = [] := by
      simp only [written, hstopping]
    rw [hnone]
    exact List.nil_prefix

/-- In a log without errors no first error is found. -/
theorem IsQuiet.find?_error (h : IsQuiet log) : log.find? (·.level == "ERROR") = none := by
  rw [List.find?_eq_none]
  intro x hx
  rw [h x hx]
  decide

/-- Two batches with the same settings over the same files, one that stops at its first error and
one that goes on. When the first returns, or fails on writing a document, the second does the same
and logs no error. When it stops with what befell a class, that is the first error that the second
one logs, and all that the first one logged and wrote is what the second one begins with. -/
theorem generate_failFast_spec (s : Settings) (t : FileTree) :
    let stopping := generate (s.withFailFast true) t
    let goingOn := generate (s.withFailFast false) t
    (∀ records, stopping.outcome = .ok records →
      goingOn.outcome = .ok records ∧ goingOn.tree = stopping.tree ∧
        goingOn.log = stopping.log ∧ ∀ x ∈ goingOn.log, x.level ≠ "ERROR") ∧
    (∀ entity path e, stopping.outcome = .error (.write entity path e) →
      goingOn.outcome = .error (.write entity path e) ∧ goingOn.tree = stopping.tree ∧
        goingOn.log = stopping.log ∧ ∀ x ∈ goingOn.log, x.level ≠ "ERROR") ∧
    (∀ e, stopping.outcome = .error e → e.isSkippable = true →
      (∃ x label, goingOn.log.find? (·.level == "ERROR") = some x ∧
        x.message = "Skipping " ++ label ++ ": " ++ e.message ∧ Befalls s t e label) ∧
      stopping.log.filter (·.level == "WARNING") <+: goingOn.log.filter (·.level == "WARNING") ∧
      Performs (s.withFailFast true) t (written (s.withFailFast true) t) stopping ∧
      Performs (s.withFailFast false) t (written (s.withFailFast false) t) goingOn ∧
      written (s.withFailFast true) t <+: written (s.withFailFast false) t) := by
  intro stopping goingOn
  have hcontinues : Continues (Befalls s t) stopping goingOn := generate_continues s t
  have hnoError : ∀ {log}, IsQuiet log → ∀ x ∈ log, x.level ≠ "ERROR" := by
    intro log hquiet x hx hlevel
    rw [hquiet x hx] at hlevel
    revert hlevel
    decide
  -- an error that ends both batches is none that befalls a class
  have hwhole : (∀ e, stopping.outcome = .error e → e.isSkippable = false) →
      goingOn = stopping ∧ IsQuiet stopping.log := by
    intro hfatal
    cases hcontinues with
    | same quiet equal whole => exact ⟨equal, quiet⟩
    | parted e label rest quiet outcome skippable befalls log =>
      rw [hfatal e outcome] at skippable
      cases skippable
  refine ⟨?_, ?_, ?_⟩
  · intro records hok
    obtain ⟨hequal, hquiet⟩ := hwhole fun e he => by
      rw [hok] at he
      cases he
    rw [hequal]
    exact ⟨hok, rfl, rfl, hnoError hquiet⟩
  · intro entity path e herror
    obtain ⟨hequal, hquiet⟩ := hwhole fun other hother => by
      rw [herror] at hother
      cases hother
      rfl
    rw [hequal]
    exact ⟨herror, rfl, rfl, hnoError hquiet⟩
  · intro e herror hskippable
    refine ⟨?_, ?_, generate_performs _ t, generate_performs _ t, written_prefix s t⟩
    · cases hcontinues with
      | same quiet equal whole =>
        rw [whole e herror] at hskippable
        cases hskippable
      | parted other label rest quiet outcome skippable befalls log =>
        rw [herror] at outcome
        cases outcome
        refine ⟨.skipped label e, label, ?_, rfl, befalls⟩
        rw [log, List.find?_append, quiet.find?_error, Option.none_or, List.find?_cons_of_pos rfl]
    · cases hcontinues with
      | same quiet equal whole => simp only [equal, List.prefix_rfl]
      | parted other label rest quiet outcome skippable befalls log =>
        rw [log, List.filter_append]
        exact List.prefix_append _ _

/-- The error that a run ends with. -/
def Run.error? (run : Run) : Option BatchError :=
  match run.outcome with
  | .ok _ => none
  | .error e => some e

/-- A run with an error has ended with it. -/
theorem Run.outcome_of_error? {run : Run} {e : BatchError} (h : run.error? = some e) :
    run.outcome = .error e := by
  unfold error? at h
  split at h
  · cases h
  · next heq =>
    cases h
    exact heq

/-- Settings under which the documents of the garage would go below a file. -/
def blockedSettings : Settings :=
  { garageSettings true with outputDir := some { parts := ["Car.json"] } }

/-- The car has no identifier. -/
def carWithoutIdentifier : BatchError :=
  .mapping (.malformed "Car" none .noIdentifier)

/-- The file of the car is where a directory would be. -/
def carInTheWay : BatchError :=
  .write "Car" { parts := ["Car.json", "Car.hbm.xml"] } ⟨.exists, { parts := ["Car.json"] }⟩

/-- The blocked garage ends with a document that cannot be written, the bare one with the car. -/
theorem generate_garage_errors :
    (generate blockedSettings (garage numberedCar)).error? = some carInTheWay ∧
      (generate (garageSettings true) (garage bareCar)).error? = some carWithoutIdentifier := by
  decide +kernel

/-- A garage for each of the three endings. -/
theorem generate_failFast_spec_garage :
    ((generate (garageSettings true) (garage numberedCar)).outcome =
        .ok [garageRecord "Car", garageRecord "Tyre"] ∧
      (generate (garageSettings false) (garage numberedCar)).outcome =
        .ok [garageRecord "Car", garageRecord "Tyre"]) ∧
    ((generate blockedSettings (garage numberedCar)).outcome = .error carInTheWay ∧
      (generate (blockedSettings.withFailFast false) (garage numberedCar)).outcome =
        .error carInTheWay) ∧
    ((generate (garageSettings true) (garage bareCar)).outcome = .error carWithoutIdentifier ∧
      carWithoutIdentifier.isSkippable = true ∧
      ∃ x label, (generate (garageSettings false) (garage bareCar)).log.find?
          (·.level == "ERROR") = some x ∧
        x.message = "Skipping " ++ label ++ ": " ++ carWithoutIdentifier.message) := by
  obtain ⟨hblocked, hbare⟩ := generate_garage_errors
  have hnumbered := generate_numberedCar.1
  have hwrite := Run.outcome_of_error? hblocked
  have hskip := Run.outcome_of_error? hbare
  refine ⟨⟨hnumbered, ?_⟩, ⟨hwrite, ?_⟩, hskip, rfl, ?_⟩
  · obtain ⟨hreturned, -, -⟩ :=
      generate_failFast_spec (garageSettings true) (garage numberedCar)
    exact (hreturned _ hnumbered).1
  · obtain ⟨-, hblocked, -⟩ := generate_failFast_spec blockedSettings (garage numberedCar)
    exact (hblocked _ _ _ hwrite).1
  · obtain ⟨-, -, hskipped⟩ := generate_failFast_spec (garageSettings true) (garage bareCar)
    obtain ⟨⟨x, label, hfind, hmessage, -⟩, -⟩ := hskipped _ hskip rfl
    exact ⟨x, label, hfind, hmessage⟩

end OrmMapping
