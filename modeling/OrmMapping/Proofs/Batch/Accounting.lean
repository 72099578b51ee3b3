import Mathlib.Data.List.Basic
import OrmMapping.Proofs.Batch.References

/-!
# Accounting for every source

A batch that goes on after errors accounts for every source that it finds, exactly once: the class
is not persistent, or it is left out and the log has one error for it, or there is a record for it.
A class can be left out at two points, when it is found and when it is mapped; the errors stand in
the log in that order, and within each in the order of the sources.

* `Fate`, `Meets`: what can become of a source, and when it does;
* `enterAll_finds`: what discovery makes of the sources;
* `errors_runAll`: the errors that a run over candidates logs;
* `generate_accounts`: the sources with their fates, the records and the log.
-/

namespace OrmMapping

/-- The errors in a log. -/
def errorsOf (log : List LogRecord) : List LogRecord :=
  log.filter (·.level == "ERROR")

/-- What becomes of a source. -/
inductive Fate where
  | passedOver
  | refused (label : String) (e : BatchError)
  | leftOut (label : String) (e : BatchError)
  | recorded (record : EntityRecord)

namespace Fate

/-- The record of a source, if it has one. -/
def record? : Fate → Option EntityRecord
  | .recorded record => some record
  | _ => none

/-- The error logged for a source when it is found. -/
def refusal? : Fate → Option LogRecord
  | .refused label e => some (.skipped label e)
  | _ => none

/-- The error logged for a source when its class is mapped. -/
def omission? : Fate → Option LogRecord
  | .leftOut label e => some (.skipped label e)
  | _ => none

end Fate

/-- When a source meets a fate, in a batch with this roster.

* It is passed over if its descriptor is not persistent.
* It is refused, under its path, if it cannot be read, or its name or its datasource cannot, or if
  another candidate has its name.
* It is left out, under its entity name, if it cannot be mapped.
* Otherwise it has a record, with the name and the datasource of its descriptor, which are those
  that it was registered with. -/
inductive Meets (s : Settings) (t : FileTree) (roster : Roster) (source : Source) : Fate → Prop
  | passedOver {d : Descriptor} (load : Descriptor.load t source.path = .ok d)
      (plain : d.isPersistent = false) : Meets s t roster source .passedOver
  | unreadable {e : LoadError} (load : Descriptor.load t source.path = .error e) :
      Meets s t roster source (.refused source.path.text (.load e))
  | unnamed {d : Descriptor} {e : MappingError} (load : Descriptor.load t source.path = .ok d)
      (persistent : d.isPersistent = true) (unnamed : Candidate.of s source d = .error e) :
      Meets s t roster source (.refused source.path.text (.mapping e))
  | duplicate {d : Descriptor} {c other : Candidate}
      (load : Descriptor.load t source.path = .ok d) (persistent : d.isPersistent = true)
      (candidate : Candidate.of s source d = .ok c) (mem : other ∈ roster.candidates)
      (same : Text.lower other.entityName = Text.lower c.entityName) :
      Meets s t roster source (.refused source.path.text
        (.mapping (.duplicateEntity c.entityName other.source.path.text source.path.text)))
  | leftOut {d : Descriptor} {c : Candidate} {e : MappingError}
      (load : Descriptor.load t source.path = .ok d) (persistent : d.isPersistent = true)
      (candidate : Candidate.of s source d = .ok c) (mem : c ∈ roster.candidates)
      (failed : (mapCandidate s roster c).outcome = .error e) :
      Meets s t roster source (.leftOut c.entityName (.mapping e))
  | recorded {d : Descriptor} {c : Candidate} {record : EntityRecord}
      (load : Descriptor.load t source.path = .ok d) (persistent : d.isPersistent = true)
      (candidate : Candidate.of s source d = .ok c) (mem : c ∈ roster.candidates)
      (qualifiedName : record.qualifiedName = source.qualifiedName)
      (sourcePath : record.sourcePath = source.path)
      (entityName : d.entityName = .ok record.entityName)
      (datasource : d.datasource s.datasource = .ok record.datasource)
      (registeredName : c.entityName = record.entityName)
      (registeredDatasource : c.datasource = record.datasource) :
      Meets s t roster source (.recorded record)

variable {s : Settings} {t : FileTree} {r r' roster : Roster} {source : Source}
  {sources : List Source} {c : Candidate} {cs : List Candidate}

/-! ## Discovery -/

/-- What discovery makes of a source: its fate is settled, or it is a candidate. -/
inductive Finding where
  | settled (fate : Fate)
  | candidate (c : Candidate)

namespace Finding

/-- The candidate, if it is one. -/
def candidate? : Finding → Option Candidate
  | .settled _ => none
  | .candidate c => some c

/-- The error logged for a source when it is found. -/
def refusal? : Finding → Option LogRecord
  | .settled fate => fate.refusal?
  | .candidate _ => none

end Finding

/-- When discovery makes a finding of a source. -/
inductive Finds (s : Settings) (t : FileTree) (roster : Roster) (source : Source) : Finding → Prop
  | settled {fate : Fate} (meets : Meets s t roster source fate) (early : fate.record? = none)
      (omitted : fate.omission? = none) : Finds s t roster source (.settled fate)
  | candidate {d : Descriptor} {c : Candidate} (load : Descriptor.load t source.path = .ok d)
      (persistent : d.isPersistent = true) (candidate : Candidate.of s source d = .ok c)
      (mem : c ∈ roster.candidates) : Finds s t roster source (.candidate c)

/-- What `Roster.enter` does with one source: nothing for a class that is not persistent, or it
registers a candidate, or it refuses, which any later roster that keeps the candidates `cs` accounts
for. -/
theorem enter_cases (h : r.Represents cs) (s : Settings) (t : FileTree) (source : Source) :
    (∃ d, Descriptor.load t source.path = .ok d ∧ d.isPersistent = false ∧
      r.enter s t source = .ok r) ∨
    (∃ d c r', Descriptor.load t source.path = .ok d ∧ d.isPersistent = true ∧
      Candidate.of s source d = .ok c ∧ r.register c = .ok r' ∧ r.enter s t source = .ok r') ∨
    (∃ e, r.enter s t source = .error e ∧ ∀ roster : Roster, (∀ x ∈ cs, x ∈ roster.candidates) →
      Meets s t roster source (.refused source.path.text e)) := by
  cases hload : Descriptor.load t source.path with
  | error e =>
    refine Or.inr (Or.inr ⟨.load e, ?_, fun roster _ => .unreadable hload⟩)
    simp only [Roster.enter, hload]
  | ok d =>
    cases hpersistent : d.isPersistent with
    | false =>
      refine Or.inl ⟨d, rfl, hpersistent, ?_⟩
      simp only [Roster.enter, hload, hpersistent]
      rfl
    | true =>
      cases hof : Candidate.of s source d with
      | error e =>
        refine Or.inr (Or.inr ⟨.mapping e, ?_, fun roster _ => .unnamed hload hpersistent hof⟩)
        simp only [Roster.enter, hload, hpersistent, hof, if_true]
        rfl
      | ok c =>
        cases hregister : r.register c with
        | ok next =>
          refine Or.inr (Or.inl ⟨d, c, next, rfl, hpersistent, hof, hregister, ?_⟩)
          simp only [Roster.enter, hload, hpersistent, hof, if_true, Except.bind, hregister]
          rfl
        | error e =>
          obtain ⟨other, hother, hsame, rfl⟩ := (h.register_eq_error_iff e).mp hregister
          rw [(Candidate.of_eq_ok hof).1] at hregister
          refine Or.inr (Or.inr ⟨_, ?_, fun roster hroster =>
            .duplicate hload hpersistent hof (hroster other hother) hsame⟩)
          simp only [Roster.enter, hload, hpersistent, hof, if_true, Except.bind, hregister]
          rfl

/-- The run lemma of discovery: in a batch that goes on, every source has a finding in the final
roster `r'`, and the candidates and the log are those of the findings. -/
theorem enterAll_finds (hslow : s.failFast = false) (h : r.Represents cs)
    (hok : (Roster.enterAll s t r sources).outcome = .ok r') :
    ∃ found : List (Source × Finding), found.map (·.1) = sources ∧
      (∀ x ∈ found, Finds s t r' x.1 x.2) ∧
      r'.candidates = cs ++ found.filterMap (·.2.candidate?) ∧
      (Roster.enterAll s t r sources).log = found.filterMap (·.2.refusal?) := by
  induction sources generalizing r cs with
  | nil =>
    cases hok
    exact ⟨[], rfl, by simp, by simpa using h.candidates, rfl⟩
  | cons source rest ih =>
    rcases enter_cases h s t source with
      ⟨d, hload, hplain, hstep⟩ | ⟨d, c, next, hload, hpersistent, hof, hregister, hstep⟩ |
      ⟨e, hstep, hmeets⟩
    · -- not persistent: the roster is as before
      simp only [Roster.enterAll, hstep] at hok ⊢
      obtain ⟨found, hsources, hfinds, hcandidates, hlog⟩ := ih h hok
      refine ⟨(source, .settled .passedOver) :: found, ?_, ?_, hcandidates, hlog⟩
      · rw [List.map_cons, hsources]
      · refine List.forall_mem_cons.mpr ⟨.settled (.passedOver hload hplain) rfl rfl, hfinds⟩
    · -- a candidate comes after those before it
      simp only [Roster.enterAll, hstep] at hok ⊢
      obtain ⟨found, hsources, hfinds, hcandidates, hlog⟩ := ih (h.register hregister) hok
      have hmem : c ∈ r'.candidates := by
        rw [hcandidates]
        exact List.mem_append_left _ (List.mem_append_right _ (List.mem_singleton_self c))
      refine ⟨(source, .candidate c) :: found, ?_, ?_, ?_, hlog⟩
      · rw [List.map_cons, hsources]
      · exact List.forall_mem_cons.mpr ⟨.candidate hload hpersistent hof hmem, hfinds⟩
      · rw [hcandidates, List.append_assoc]
        rfl
    · -- refused: the roster is as before, and the log has the error
      simp only [Roster.enterAll, hstep, hslow] at hok ⊢
      obtain ⟨found, hsources, hfinds, hcandidates, hlog⟩ := ih h hok
      have hbefore : ∀ x ∈ cs, x ∈ r'.candidates := by
        intro x hx
        rw [hcandidates]
        exact List.mem_append_left _ hx
      refine ⟨(source, .settled (.refused source.path.text e)) :: found, ?_, ?_, hcandidates, ?_⟩
      · rw [List.map_cons, hsources]
      · exact List.forall_mem_cons.mpr ⟨.settled (hmeets r' hbefore) rfl rfl, hfinds⟩
      · simp only [Bool.false_eq_true, if_false, hlog]
        rfl

/-! ## Generation -/

/-- The error logged for a candidate that cannot be mapped. -/
def omission? (s : Settings) (r : Roster) (c : Candidate) : Option LogRecord :=
  match (mapCandidate s r c).outcome with
  | .ok _ => none
  | .error e => some (.skipped c.entityName (.mapping e))

/-- The errors of two logs are those of the first before those of the second. -/
theorem errorsOf_append (log log' : List LogRecord) :
    errorsOf (log ++ log') = errorsOf log ++ errorsOf log' :=
  List.filter_append log log'

/-- The warnings on a candidate are no errors. -/
theorem errorsOf_warnings (s : Settings) (r : Roster) (c : Candidate) :
    errorsOf (warnings s r c) = [] := by
  unfold errorsOf
  rw [List.filter_eq_nil_iff]
  intro x hx
  obtain ⟨notice, -, rfl⟩ := List.mem_map.mp hx
  show ¬ ("WARNING" == "ERROR") = true
  decide

/-- All that discovery logs are errors. -/
theorem errorsOf_refusals (found : List (Source × Finding)) :
    errorsOf (found.filterMap (·.2.refusal?)) = found.filterMap (·.2.refusal?) := by
  unfold errorsOf
  rw [List.filter_eq_self]
  intro x hx
  obtain ⟨⟨source, f⟩, -, hrefusal⟩ := List.mem_filterMap.mp hx
  rcases f with fate | c
  · cases fate with
    | refused label e =>
      cases hrefusal
      rfl
    | passedOver => cases hrefusal
    | leftOut label e => cases hrefusal
    | recorded record => cases hrefusal
  · cases hrefusal

/-- A candidate with a rendering `w` is not omitted. -/
theorem omission?_of_rendering? {w : Rendering} (hw : rendering? s r c = some w) :
    omission? s r c = none := by
  simp only [omission?, (rendering?_eq_some_iff.mp hw).2]

/-- The run lemma of generation: a run that returns has logged one error for each candidate that
cannot be mapped, in order. -/
theorem errors_runAll {records : List EntityRecord}
    (hok : (runAll s r t cs).outcome = .ok records) :
    errorsOf (runAll s r t cs).log = cs.filterMap (omission? s r) := by
  induction cs generalizing t records with
  | nil => rfl
  | cons c rest ih =>
    rcases attempt_cases s r t c with
      ⟨w, hw, -, hattempt⟩ | ⟨w, e, -, -, hattempt⟩ | ⟨e, hfailed, -, hattempt⟩ |
      ⟨e, -, -, hattempt⟩
    · simp only [runAll, hattempt] at hok ⊢
      rw [errorsOf_append, errorsOf_warnings, List.nil_append,
        List.filterMap_cons_none (omission?_of_rendering? hw)]
      -- a run that returns has returned over the rest, too
      cases hrest : (runAll s r (w.write s t).tree rest).outcome with
      | error e =>
        rw [hrest] at hok
        cases hok
      | ok others => exact ih hrest
    · simp only [runAll, hattempt] at hok
      cases hok
    · have homission : omission? s r c = some (.skipped c.entityName (.mapping e)) := by
        simp only [omission?, hfailed]
      simp only [runAll, hattempt] at hok ⊢
      rw [errorsOf_append, errorsOf_append, errorsOf_warnings, ih hok,
        List.filterMap_cons_some homission]
      rfl
    · simp only [runAll, hattempt] at hok
      cases hok

/-! ## Whole batches -/

/-- The fate that a finding leads to: that of a candidate shows when it is mapped. -/
def Finding.fate (s : Settings) (roster : Roster) : Finding → Fate
  | .settled fate => fate
  | .candidate c =>
    match (mapCandidate s roster c).outcome with
    | .ok (e, _) => .recorded (.of s c e)
    | .error e => .leftOut c.entityName (.mapping e)

variable {f : Finding}

/-- The fate that a finding leads to is one that its source meets. -/
theorem Finds.meets (h : Finds s t roster source f) :
    Meets s t roster source (f.fate s roster) := by
  cases h with
  | settled meets early omitted => exact meets
  | @candidate d c load persistent hof mem =>
    simp only [Finding.fate]
    -- a candidate is mapped or is left out with the fault
    cases houtcome : (mapCandidate s roster c).outcome with
    | error e => exact .leftOut load persistent hof mem houtcome
    | ok pair =>
      obtain ⟨e, document⟩ := pair
      obtain ⟨rfl, rfl, hname, hdatasource⟩ := Candidate.of_eq_ok hof
      -- name and datasource are read again when the candidate is mapped
      have hw : rendering? s roster c = some ⟨c, e, document⟩ :=
        rendering?_eq_some_iff.mpr ⟨rfl, houtcome⟩
      obtain ⟨hsame, hbound⟩ :=
        Rendering.identity_of_readFrom hw ⟨load, persistent, hname, hdatasource⟩
      refine .recorded load persistent hof mem rfl rfl ?_ ?_ hsame.symm hbound.symm
      · exact hname.trans (congrArg Except.ok hsame.symm)
      · exact hdatasource.trans (congrArg Except.ok hbound.symm)

/-- The fate of a finding has a record exactly when the finding is a candidate with a document, and
it is the record of that. -/
theorem Finds.record?_fate (h : Finds s t roster source f) :
    (f.fate s roster).record? = (f.candidate?.bind (rendering? s roster)).map (·.record s) := by
  cases h with
  | settled meets early omitted => exact early
  | @candidate d c load persistent hof mem =>
    simp only [Finding.fate, Finding.candidate?, Option.bind_some, rendering?]
    cases (mapCandidate s roster c).outcome <;> rfl

/-- The fate of a finding has been refused exactly when the finding has. -/
theorem Finds.refusal?_fate (h : Finds s t roster source f) :
    (f.fate s roster).refusal? = f.refusal? := by
  cases h with
  | settled meets early omitted => rfl
  | @candidate d c load persistent hof mem =>
    simp only [Finding.fate, Finding.refusal?]
    cases (mapCandidate s roster c).outcome <;> rfl

/-- The fate of a finding has been left out exactly when the finding is a candidate that cannot be
mapped. -/
theorem Finds.omission?_fate (h : Finds s t roster source f) :
    (f.fate s roster).omission? = f.candidate?.bind (omission? s roster) := by
  cases h with
  | settled meets early omitted => exact omitted
  | @candidate d c load persistent hof mem =>
    simp only [Finding.fate, Finding.candidate?, Option.bind_some, OrmMapping.omission?]
    cases (mapCandidate s roster c).outcome <;> rfl

/-- A batch that goes on and returns accounts for every source that it found, in their order, by one
fate. The `records` are those of the fates, and their names differ, so that an index by entity name
has them all. The errors in the log are those of the fates, first of the sources that were refused,
then of those that were left out. -/
theorem generate_accounts (s : Settings) (t : FileTree) (records : List EntityRecord)
    (hslow : s.failFast = false) (hok : (generate s t).outcome = .ok records) :
    ∃ roster, ∃ accounts : List (Source × Fate),
      (discover s t).outcome = .ok roster ∧
      Source.discover t s.searchPaths s.suffixes = .ok (accounts.map (·.1)) ∧
      (∀ a ∈ accounts, Meets s t roster a.1 a.2) ∧
      records = accounts.filterMap (·.2.record?) ∧
      Keyed.ofPairs (records.map fun x => (x.entityName, x)) =
        records.map (fun x => (x.entityName, x)) ∧
      errorsOf (generate s t).log =
        accounts.filterMap (·.2.refusal?) ++ accounts.filterMap (·.2.omission?) := by
  obtain ⟨roster, hroster, -, hrun⟩ := generate_completes hok
  obtain ⟨sources, hsources, hrepresents, hcollects⟩ := discover_eq_ok hroster
  have hrecords := Except.ok.inj (hok.symm.trans hrun.outcome)
  have hdiscover : discover s t = Roster.enterAll s t {} sources := by
    simp only [discover, hsources]
  rw [hdiscover] at hroster
  obtain ⟨found, hfound, hfinds, hcandidates, hlog⟩ :=
    enterAll_finds hslow Roster.represents_empty hroster
  rw [List.nil_append] at hcandidates
  refine ⟨roster, found.map fun x => (x.1, x.2.fate s roster), ?_, ?_, ?_, ?_, ?_, ?_⟩
  · rw [hdiscover, hroster]
  · rw [hsources, List.map_map, ← hfound]
    rfl
  · intro a ha
    obtain ⟨x, hx, rfl⟩ := List.mem_map.mp ha
    exact (hfinds x hx).meets
  · rw [hrecords, hcandidates, List.filterMap_filterMap, List.map_filterMap, List.filterMap_map]
    refine List.filterMap_congr ?_
    intro x hx
    exact (hfinds x hx).record?_fate.symm
  · refine Keyed.ofPairs_of_nodup ?_
    have hdistinct := pairwise_records hrepresents hcollects.read
    rw [← hrecords] at hdistinct
    rw [Keyed.keys, List.map_map, List.nodup_iff_pairwise_ne, List.pairwise_map]
    exact hdistinct.imp fun hne heq => hne (congrArg Text.lower heq)
  · have hrunAll : (runAll s roster t roster.candidates).outcome = .ok records := by
      simp only [generate, hdiscover, hroster] at hok
      exact hok
    calc errorsOf (generate s t).log
        = errorsOf (found.filterMap (·.2.refusal?)) ++
            errorsOf (runAll s roster t roster.candidates).log := by
          simp only [generate, hdiscover, hroster, hlog, errorsOf_append]
      _ = found.filterMap (·.2.refusal?) ++ roster.candidates.filterMap (omission? s roster) := by
          rw [errorsOf_refusals, errors_runAll hrunAll]
      _ = found.filterMap (·.2.refusal?) ++
            found.filterMap (fun x => x.2.candidate?.bind (omission? s roster)) := by
          rw [hcandidates, List.filterMap_filterMap]
      _ = _ := by
          rw [List.filterMap_map, List.filterMap_map]
          congr 1
          · refine List.filterMap_congr fun x hx => ?_
            exact (hfinds x hx).refusal?_fate.symm
          · refine List.filterMap_congr fun x hx => ?_
            exact (hfinds x hx).omission?_fate.symm

/-- A garage with a class that is not persistent, a file that is no descriptor, a car that cannot be
mapped, a tyre, and another class of the tyre's name. -/
def mixedGarage : FileTree where
  entries := (garage bareCar).entries ++ [
    (["Plain.json"], textFile "\x7b\"name\":\"Plain\"\x7d"),
    (["Broken.json"], textFile "\x7b"),
    (["Spare.json"], textFile "\x7b\"name\":\"TYRE\",\"annotations\":\x7b\"entity\":\"\"\x7d\x7d")]

/-- Settings that lead to all of them. -/
def mixedSettings : Settings where
  searchPaths := ["Plain.json", "Broken.json", "Car.json", "Tyre.json", "Spare.json"].map
    fun name => { parts := [name] }
  outputDir := some {}
  failFast := false

/-- The batch over the mixed garage gives one record and logs three errors. -/
theorem generate_mixedGarage :
    (generate mixedSettings mixedGarage).outcome.toOption = some [garageRecord "Tyre"] ∧
      (errorsOf (generate mixedSettings mixedGarage).log).length = 3 := by
  decide +kernel

/-- One record and three errors for five sources. -/
theorem generate_accounts_mixedGarage :
    mixedSettings.failFast = false ∧
      (generate mixedSettings mixedGarage).outcome = .ok [garageRecord "Tyre"] ∧
      ∃ roster, ∃ accounts : List (Source × Fate),
        Source.discover mixedGarage mixedSettings.searchPaths mixedSettings.suffixes =
          .ok (accounts.map (·.1)) ∧
        (∀ a ∈ accounts, Meets mixedSettings mixedGarage roster a.1 a.2) ∧
        accounts.filterMap (·.2.record?) = [garageRecord "Tyre"] ∧
        (accounts.filterMap (·.2.refusal?) ++ accounts.filterMap (·.2.omission?)).length = 3 := by
  have hslow : mixedSettings.failFast = false := rfl
  have hok := eq_ok_of_toOption generate_mixedGarage.1
  obtain ⟨roster, accounts, -, hsources, hmeets, hrecords, -, herrors⟩ :=
    generate_accounts _ _ _ hslow hok
  refine ⟨hslow, hok, roster, accounts, hsources, hmeets, hrecords.symm, ?_⟩
  rw [← herrors]
  exact generate_mixedGarage.2

end OrmMapping
