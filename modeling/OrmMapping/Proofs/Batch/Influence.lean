import OrmMapping.Proofs.Batch.Accounting
import OrmMapping.Proofs.Batch.Written

/-!
# Sources without influence

A batch depends on its search paths by the sources that they lead to and by nothing else. When it
goes on after errors, a source that it drops at discovery has no influence on the others: without
that source the batch has the same roster, and so the same records, documents and end, and its log
only lacks the error of the source.

* `generateFrom`, `generate_eq_generateFrom`: a batch over given sources;
* `Finds.enter`: what a source that is dropped does to the roster, which is nothing;
* `enterAll_without`: discovery with such a source and without it;
* `generate_without_settled`: two whole batches.
-/

namespace OrmMapping

variable {s : Settings} {t : FileTree} {r r' : Roster} {source : Source}
  {sources before after : List Source} {cs : List Candidate} {fate : Fate}

/-! ## Batches over given sources -/

/-- What a batch does once its sources were gone through. -/
def Run.ofDiscovery (s : Settings) (t : FileTree) (found : Discovery) : Run :=
  match found.outcome with
  | .error e => ⟨found.log, t, .error e⟩
  | .ok r =>
    let run := runAll s r t r.candidates
    { run with log := found.log ++ run.log }

/-- A batch over given sources. -/
def generateFrom (s : Settings) (t : FileTree) (sources : List Source) : Run :=
  .ofDiscovery s t (Roster.enterAll s t {} sources)

/-- What a batch over given sources writes. -/
def writtenFrom (s : Settings) (t : FileTree) (sources : List Source) : List Rendering :=
  match (Roster.enterAll s t {} sources).outcome with
  | .ok r => writtenBy s r t r.candidates
  | .error _ => []

/-- A batch is its discovery and the run after that. -/
theorem generate_eq_ofDiscovery (s : Settings) (t : FileTree) :
    generate s t = .ofDiscovery s t (discover s t) := rfl

/-- Discovery enters the `sources` that the search has found. -/
theorem discover_eq_enterAll (h : Source.discover t s.searchPaths s.suffixes = .ok sources) :
    discover s t = Roster.enterAll s t {} sources := by
  simp only [discover, h]

/-- A batch counts on the `sources` that its search paths lead to. -/
theorem generate_eq_generateFrom
    (h : Source.discover t s.searchPaths s.suffixes = .ok sources) :
    generate s t = generateFrom s t sources := by
  rw [generate_eq_ofDiscovery, discover_eq_enterAll h, generateFrom]

/-- After discovery comes the run over the candidates of its roster. -/
theorem generate_eq_runAll {r : Roster} (hr : (discover s t).outcome = .ok r) :
    generate s t =
      { runAll s r t r.candidates with
        log := (discover s t).log ++ (runAll s r t r.candidates).log } := by
  simp only [generate, hr]

/-- What a batch writes counts on the `sources` that its search paths lead to. -/
theorem written_eq_writtenFrom
    (h : Source.discover t s.searchPaths s.suffixes = .ok sources) :
    written s t = writtenFrom s t sources := by
  have hdiscover := discover_eq_enterAll h
  cases hfound : (Roster.enterAll s t {} sources).outcome with
  | ok r => simp only [written, writtenFrom, hdiscover, hfound]
  | error e => simp only [written, writtenFrom, hdiscover, hfound]

/-- The same settings with other search paths. -/
def Settings.searching (s : Settings) (searchPaths : List Path) (suffixes : List String) :
    Settings :=
  { s with searchPaths, suffixes }

/-- Entering given sources does not count on the search paths. -/
theorem enterAll_searching (searchPaths : List Path) (suffixes : List String) :
    Roster.enterAll (s.searching searchPaths suffixes) t r sources =
      Roster.enterAll s t r sources := by
  induction sources generalizing r with
  | nil => rfl
  | cons source rest ih =>
    have hstep : r.enter (s.searching searchPaths suffixes) t source = r.enter s t source := rfl
    simp only [Roster.enterAll, hstep, ih]
    rfl

/-- A run over given candidates does not count on the search paths. -/
theorem runAll_searching (searchPaths : List Path) (suffixes : List String) :
    runAll (s.searching searchPaths suffixes) r t cs = runAll s r t cs := by
  induction cs generalizing t with
  | nil => rfl
  | cons c rest ih =>
    have hstep : attempt (s.searching searchPaths suffixes) r t c = attempt s r t c := rfl
    simp only [runAll, hstep, ih]

/-- A batch over given sources does not count on the search paths. -/
theorem generateFrom_searching (searchPaths : List Path) (suffixes : List String) :
    generateFrom (s.searching searchPaths suffixes) t sources = generateFrom s t sources := by
  simp only [generateFrom, Run.ofDiscovery, enterAll_searching, runAll_searching]

/-! ## One source -/

/-- A source whose fate is settled at discovery leaves the roster as it is, with its error if it has
one. -/
theorem Finds.enter (h : r.Represents cs) (hfinds : Finds s t r source (.settled fate)) :
    (fate.refusal? = none ∧ r.enter s t source = .ok r) ∨
    (∃ e, fate.refusal? = some (.skipped source.path.text e) ∧
      r.enter s t source = .error e) := by
  cases hfinds with
  | settled meets early omitted =>
    cases meets with
    | @passedOver d load plain =>
      refine Or.inl ⟨rfl, ?_⟩
      simp only [Roster.enter, load, plain]
      rfl
    | @unreadable e load =>
      refine Or.inr ⟨.load e, rfl, ?_⟩
      simp only [Roster.enter, load]
    | @unnamed d e load persistent unnamed =>
      refine Or.inr ⟨.mapping e, rfl, ?_⟩
      simp only [Roster.enter, load, persistent, unnamed, if_true]
      rfl
    | @duplicate d c other load persistent candidate mem same =>
      -- the earlier candidate keeps the name
      obtain ⟨hsource, -, -, -⟩ := Candidate.of_eq_ok candidate
      rw [h.candidates] at mem
      have hrefused : r.register c =
          .error (.duplicateEntity c.entityName other.source.path.text source.path.text) :=
        (h.register_eq_error_iff _).mpr ⟨other, mem, same, by rw [hsource]⟩
      refine Or.inr ⟨_, rfl, ?_⟩
      simp only [Roster.enter, load, persistent, candidate, if_true, Except.bind, hrefused]
      rfl
    | leftOut load persistent candidate mem failed => cases omitted
    | recorded load persistent candidate mem qualifiedName sourcePath entityName datasource
        registeredName registeredDatasource => cases early

/-- A source that `Roster.enter` refuses is one that discovery drops. -/
theorem Roster.Represents.finds_of_enter {e : BatchError} (h : r.Represents cs)
    (hrefused : r.enter s t source = .error e) :
    Finds s t r source (.settled (.refused source.path.text e)) := by
  rcases enter_cases h s t source with
    ⟨d, -, -, hstep⟩ | ⟨d, c, next, -, -, -, -, hstep⟩ | ⟨other, hstep, hmeets⟩
  · rw [hrefused] at hstep
    cases hstep
  · rw [hrefused] at hstep
    cases hstep
  · rw [hrefused] at hstep
    cases hstep
    exact .settled (hmeets r fun x hx => by rw [h.candidates]; exact hx) rfl rfl

/-! ## Discovery -/

/-- A batch that goes on always comes to the end of its sources. -/
theorem exists_enterAll_eq_ok (hslow : s.failFast = false) (t : FileTree) (r : Roster)
    (sources : List Source) : ∃ r', (Roster.enterAll s t r sources).outcome = .ok r' := by
  induction sources generalizing r with
  | nil => exact ⟨r, rfl⟩
  | cons source rest ih =>
    cases hstep : r.enter s t source with
    | ok next =>
      obtain ⟨r', hr'⟩ := ih next
      exact ⟨r', by simp only [Roster.enterAll, hstep, hr']⟩
    | error e =>
      obtain ⟨r', hr'⟩ := ih r
      refine ⟨r', ?_⟩
      simp only [Roster.enterAll, hstep, hslow, Bool.false_eq_true, if_false, hr']

/-- Entering the sources `after` goes on from the roster `r'` that those `before` have led to. -/
theorem enterAll_append (hbefore : (Roster.enterAll s t r before).outcome = .ok r')
    (after : List Source) :
    Roster.enterAll s t r (before ++ after) =
      ⟨(Roster.enterAll s t r before).log ++ (Roster.enterAll s t r' after).log,
        (Roster.enterAll s t r' after).outcome⟩ := by
  induction before generalizing r with
  | nil =>
    cases hbefore
    rfl
  | cons source rest ih =>
    rw [List.cons_append]
    cases hstep : r.enter s t source with
    | ok next =>
      simp only [Roster.enterAll, hstep] at hbefore ⊢
      exact ih hbefore
    | error e =>
      simp only [Roster.enterAll, hstep] at hbefore ⊢
      split at hbefore
      · cases hbefore
      · -- an error has not ended discovery, so the batch goes on
        next hslow =>
        rw [if_neg hslow, if_neg hslow, ih hbefore, List.cons_append]

/-- In a batch that goes on, a source that is dropped adds its error to the log, and that is all. -/
theorem enterAll_cons_settled (hslow : s.failFast = false) (h : r.Represents cs)
    (hfinds : Finds s t r source (.settled fate)) (after : List Source) :
    Roster.enterAll s t r (source :: after) =
      ⟨fate.refusal?.toList ++ (Roster.enterAll s t r after).log,
        (Roster.enterAll s t r after).outcome⟩ := by
  rcases hfinds.enter h with ⟨hnone, hstep⟩ | ⟨e, hrefusal, hstep⟩
  · simp only [Roster.enterAll, hstep, hnone]
    rfl
  · simp only [Roster.enterAll, hstep, hrefusal, hslow]
    rfl

/-- Discovery with a `source` that is dropped and without it come to the same roster, and the logs
differ by the error of that source only. -/
theorem enterAll_without (hslow : s.failFast = false)
    (hbefore : (Roster.enterAll s t {} before).outcome = .ok r)
    (hfinds : Finds s t r source (.settled fate)) (after : List Source) :
    ∃ earlier later,
      (Roster.enterAll s t {} (before ++ source :: after)).log =
        earlier ++ fate.refusal?.toList ++ later ∧
      (Roster.enterAll s t {} (before ++ after)).log = earlier ++ later ∧
      (Roster.enterAll s t {} (before ++ source :: after)).outcome =
        (Roster.enterAll s t {} (before ++ after)).outcome := by
  obtain ⟨cs, hrepresents, -⟩ := Roster.represents_empty.enterAll hbefore
  refine ⟨(Roster.enterAll s t {} before).log, (Roster.enterAll s t r after).log, ?_, ?_, ?_⟩
  · rw [enterAll_append hbefore, enterAll_cons_settled hslow hrepresents hfinds,
      List.append_assoc]
  · rw [enterAll_append hbefore]
  · rw [enterAll_append hbefore, enterAll_append hbefore,
      enterAll_cons_settled hslow hrepresents hfinds]

/-! ## Whole batches -/

/-- In a batch that goes on after errors, take any of its sources that is dropped at discovery: one
that holds no descriptor, or whose class is not persistent, or whose name or datasource cannot be
read, or whose name an earlier candidate has. The batch without that source ends in the same way,
with the same records or the same error; it writes the same documents and leaves the same files; and
it logs the same, but for the error of the source. Search paths that lead to all sources but that
one give this batch. -/
theorem generate_without_settled (s : Settings) (t : FileTree) (before after : List Source)
    (source : Source) (r : Roster) (fate : Fate) (hslow : s.failFast = false)
    (hsources : Source.discover t s.searchPaths s.suffixes = .ok (before ++ source :: after))
    (hbefore : (Roster.enterAll s t {} before).outcome = .ok r)
    (hdropped : Finds s t r source (.settled fate)) :
    let without := generateFrom s t (before ++ after)
    without.outcome = (generate s t).outcome ∧
    writtenFrom s t (before ++ after) = written s t ∧
    without.tree = (generate s t).tree ∧
    (∃ earlier later, (generate s t).log = earlier ++ fate.refusal?.toList ++ later ∧
      without.log = earlier ++ later) ∧
    ∀ searchPaths suffixes, Source.discover t searchPaths suffixes = .ok (before ++ after) →
      generate (s.searching searchPaths suffixes) t = without := by
  intro without
  obtain ⟨earlier, later, hwith, hwithout, hsame⟩ :=
    enterAll_without hslow hbefore hdropped after
  -- both batches have the same roster, and all else follows from it
  obtain ⟨final, hfinal⟩ := exists_enterAll_eq_ok hslow t {} (before ++ after)
  rw [hfinal] at hsame
  have hgenerate : generate s t = generateFrom s t (before ++ source :: after) :=
    generate_eq_generateFrom hsources
  refine ⟨?_, ?_, ?_, ?_, ?_⟩
  · simp only [without, hgenerate, generateFrom, Run.ofDiscovery, hsame, hfinal]
  · simp only [written_eq_writtenFrom hsources, writtenFrom, hsame, hfinal]
  · simp only [without, hgenerate, generateFrom, Run.ofDiscovery, hsame, hfinal]
  · refine ⟨earlier, later ++ (runAll s final t final.candidates).log, ?_, ?_⟩
    · simp only [hgenerate, generateFrom, Run.ofDiscovery, hsame, hwith, List.append_assoc]
    · simp only [without, generateFrom, Run.ofDiscovery, hfinal, hwithout, List.append_assoc]
  · intro searchPaths suffixes hother
    have hsearching : generate (s.searching searchPaths suffixes) t =
        generateFrom (s.searching searchPaths suffixes) t (before ++ after) :=
      generate_eq_generateFrom hother
    rw [hsearching, generateFrom_searching]

/-- A source in the garage. -/
def garageSource (name : String) : Source :=
  ⟨name, { parts := [name ++ ".json"] }, {}⟩

/-- Settings that lead to the tyre, to the other class of that name and to the car. -/
def spareSettings : Settings :=
  mixedSettings.searching (["Tyre.json", "Spare.json", "Car.json"].map fun name =>
    { parts := [name] }) [".json"]

/-- The search finds the three sources, and the spare one is refused. -/
theorem discover_spare :
    (Source.discover mixedGarage spareSettings.searchPaths spareSettings.suffixes).toOption =
        some ([garageSource "Tyre"] ++ garageSource "Spare" :: [garageSource "Car"]) ∧
      ((Roster.enterAll spareSettings mixedGarage {} [garageSource "Tyre"]).outcome.bind
        fun r => r.enter spareSettings mixedGarage (garageSource "Spare")).toOption =
        none := by
  decide +kernel

/-- The second class with the name of the tyre is refused; without it the batch is the same. -/
theorem generate_without_settled_spare :
    spareSettings.failFast = false ∧
      Source.discover mixedGarage spareSettings.searchPaths spareSettings.suffixes =
        .ok ([garageSource "Tyre"] ++ garageSource "Spare" :: [garageSource "Car"]) ∧
      ∃ r e, (Roster.enterAll spareSettings mixedGarage {} [garageSource "Tyre"]).outcome = .ok r ∧
        Finds spareSettings mixedGarage r (garageSource "Spare")
          (.settled (.refused "Spare.json" e)) ∧
        (generateFrom spareSettings mixedGarage
            ([garageSource "Tyre"] ++ [garageSource "Car"])).outcome =
          (generate spareSettings mixedGarage).outcome ∧
        ∃ earlier later, (generate spareSettings mixedGarage).log =
            earlier ++ [.skipped "Spare.json" e] ++ later ∧
          (generateFrom spareSettings mixedGarage
            ([garageSource "Tyre"] ++ [garageSource "Car"])).log = earlier ++ later := by
  have hslow : spareSettings.failFast = false := rfl
  have hsources := eq_ok_of_toOption discover_spare.1
  obtain ⟨r, hr⟩ :=
    exists_enterAll_eq_ok hslow mixedGarage {} [garageSource "Tyre"]
  obtain ⟨cs, hrepresents, -⟩ := Roster.represents_empty.enterAll hr
  have hrefused := discover_spare.2
  rw [hr] at hrefused
  cases hstep : r.enter spareSettings mixedGarage (garageSource "Spare") with
  | ok next =>
    simp only [Except.bind, hstep] at hrefused
    cases hrefused
  | error e =>
    have hdropped := hrepresents.finds_of_enter hstep
    obtain ⟨houtcome, -, -, hlog, -⟩ :=
      generate_without_settled _ _ _ _ _ _ _ hslow hsources hr hdropped
    exact ⟨hslow, hsources, r, e, hr, hdropped, houtcome, hlog⟩

end OrmMapping
