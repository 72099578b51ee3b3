import OrmMapping.Proofs.Batch.Renderings

/-!
# What a batch writes

A batch writes its documents one after the other and stops where it ends. A batch that returns has
written all its renderings; one that ends with an error has written those that came before.

* `written`: the renderings that a batch writes, in turn;
* `Lands`: writing some renderings in turn succeeds each time;
* `Performs`, `generate_performs`: how a batch ends, and what it leaves, in terms of what it wrote.
-/

namespace OrmMapping

/-- What a run over some candidates writes. It ends where a document cannot be written, or, when it
stops at its first error, where a candidate cannot be mapped. -/
def writtenBy (s : Settings) (r : Roster) : FileTree → List Candidate → List Rendering
  | _, [] => []
  | t, c :: rest =>
    match rendering? s r c with
    | some w =>
      match (w.write s t).error? with
      | none => w :: writtenBy s r (w.write s t).tree rest
      | some _ => []
    | none => if s.failFast then [] else writtenBy s r t rest

/-- What a batch writes. -/
def written (s : Settings) (t : FileTree) : List Rendering :=
  match (discover s t).outcome with
  | .ok r => writtenBy s r t r.candidates
  | .error _ => []

/-- Renderings that can be written in turn. -/
inductive Lands (s : Settings) : FileTree → List Rendering → Prop
  | nil (t : FileTree) : Lands s t []
  | cons {t : FileTree} {w : Rendering} {ws : List Rendering}
      (free : (w.write s t).error? = none) (rest : Lands s (w.write s t).tree ws) :
      Lands s t (w :: ws)

/-- What a run has to do with the renderings that it wrote: it returned their records, or it stopped
after them, or it failed on writing one more. -/
inductive Performs (s : Settings) (t : FileTree) (ws : List Rendering) (run : Run) : Prop
  | returned (outcome : run.outcome = .ok (ws.map (·.record s)))
      (tree : run.tree = Rendering.writeAll s t ws)
  | stopped (e : BatchError) (outcome : run.outcome = .error e)
      (tree : run.tree = Rendering.writeAll s t ws)
  | blocked (w : Rendering) (e : FileError)
      (fault : (w.write s (Rendering.writeAll s t ws)).error? = some e)
      (outcome : run.outcome = .error (w.writeError s e))
      (tree : run.tree = (w.write s (Rendering.writeAll s t ws)).tree)

variable {s : Settings} {r : Roster} {t : FileTree} {c : Candidate} {w : Rendering}
  {ws : List Rendering} {cs : List Candidate} {run : Run} {log : List LogRecord}

/-! ## One candidate -/

/-- A document that can be written is the first of those that are. -/
theorem writtenBy_cons_written (hw : rendering? s r c = some w)
    (hfree : (w.write s t).error? = none) :
    writtenBy s r t (c :: cs) = w :: writtenBy s r (w.write s t).tree cs := by
  simp only [writtenBy, hw, hfree]

/-- Nothing is written from a document on that cannot be written. -/
theorem writtenBy_cons_blocked {e : FileError} (hw : rendering? s r c = some w)
    (hfault : (w.write s t).error? = some e) : writtenBy s r t (c :: cs) = [] := by
  simp only [writtenBy, hw, hfault]

/-- A candidate without a rendering ends what is written exactly in a batch that stops at its first
error. -/
theorem writtenBy_cons_failed (hnone : rendering? s r c = none) :
    writtenBy s r t (c :: cs) = if s.failFast then [] else writtenBy s r t cs := by
  simp only [writtenBy, hnone]

/-- A document that is written comes before those of the rest, and its record before theirs. -/
theorem Performs.cons (h : Performs s (w.write s t).tree ws run) :
    Performs s t (w :: ws)
      ⟨log ++ run.log, run.tree, run.outcome.map (w.record s :: ·)⟩ := by
  cases h with
  | returned outcome tree =>
    refine .returned ?_ tree
    rw [outcome]
    rfl
  | stopped e outcome tree =>
    refine .stopped e ?_ tree
    rw [outcome]
    rfl
  | blocked v e fault outcome tree =>
    refine .blocked v e fault ?_ tree
    rw [outcome]
    rfl

/-- `Performs` says nothing about the log. -/
theorem Performs.withLog (h : Performs s t ws run) : Performs s t ws { run with log } := by
  cases h with
  | returned outcome tree => exact .returned outcome tree
  | stopped e outcome tree => exact .stopped e outcome tree
  | blocked w e fault outcome tree => exact .blocked w e fault outcome tree

/-! ## Whole runs -/

/-- What a run writes can be written in turn: `writtenBy` stops at the first document that cannot
be. -/
theorem lands_writtenBy (s : Settings) (r : Roster) (t : FileTree) (cs : List Candidate) :
    Lands s t (writtenBy s r t cs) := by
  induction cs generalizing t with
  | nil => exact .nil t
  | cons c rest ih =>
    cases hw : rendering? s r c with
    | none =>
      rw [writtenBy_cons_failed hw]
      split
      · exact .nil t
      · exact ih t
    | some w =>
      cases hfault : (w.write s t).error? with
      | none =>
        rw [writtenBy_cons_written hw hfault]
        exact .cons hfault (ih _)
      | some e =>
        rw [writtenBy_cons_blocked hw hfault]
        exact .nil t

/-- What a batch writes can be written in turn. -/
theorem lands_written (s : Settings) (t : FileTree) : Lands s t (written s t) := by
  unfold written
  split
  · exact lands_writtenBy s _ t _
  · exact .nil t

/-- How a run ends is settled by what it wrote. By induction over the candidates: a case of
`Performs` for each of `attempt_cases` that ends the run, and the case of the rest for the
others. -/
theorem runAll_performs (s : Settings) (r : Roster) (t : FileTree) (cs : List Candidate) :
    Performs s t (writtenBy s r t cs) (runAll s r t cs) := by
  induction cs generalizing t with
  | nil => exact .returned rfl rfl
  | cons c rest ih =>
    rcases attempt_cases s r t c with
      ⟨w, hw, hfree, hattempt⟩ | ⟨w, e, hw, hfault, hattempt⟩ | ⟨e, hfailed, hslow, hattempt⟩ |
      ⟨e, hfailed, hfast, hattempt⟩
    · rw [writtenBy_cons_written hw hfree]
      simp only [runAll, hattempt]
      exact (ih _).cons
    · -- nothing is written once a document cannot be
      rw [writtenBy_cons_blocked hw hfault]
      simp only [runAll, hattempt]
      exact .blocked w e hfault rfl rfl
    · -- the candidate is left out, which shows in the log only
      rw [writtenBy_cons_failed (rendering?_eq_none_iff.mpr ⟨e, hfailed⟩), hslow]
      simp only [runAll, hattempt]
      exact (ih t).withLog
    · rw [writtenBy_cons_failed (rendering?_eq_none_iff.mpr ⟨e, hfailed⟩), hfast]
      simp only [runAll, hattempt]
      exact .stopped _ rfl rfl

/-- How a batch ends, and what it leaves, is settled by what it wrote. A batch without a roster
stopped before any document. -/
theorem generate_performs (s : Settings) (t : FileTree) :
    Performs s t (written s t) (generate s t) := by
  cases hdiscover : (discover s t).outcome with
  | error e =>
    simp only [generate, written, hdiscover]
    exact .stopped e rfl rfl
  | ok r =>
    simp only [generate, written, hdiscover]
    exact (runAll_performs s r t r.candidates).withLog

/-- The records that a batch returns are those of the documents that it wrote. -/
theorem map_record_written {records : List EntityRecord}
    (hok : (generate s t).outcome = .ok records) :
    (written s t).map (·.record s) = records := by
  cases generate_performs s t with
  | returned outcome _ =>
    rw [outcome] at hok
    exact Except.ok.inj hok
  | stopped e outcome _ =>
    rw [outcome] at hok
    cases hok
  | blocked w e _ outcome _ =>
    rw [outcome] at hok
    cases hok

/-- A run that returns (`hok`) has written the renderings of all its candidates. -/
theorem writtenBy_eq_filterMap {records : List EntityRecord}
    (hok : (runAll s r t cs).outcome = .ok records) :
    writtenBy s r t cs = cs.filterMap (rendering? s r) := by
  induction cs generalizing t records with
  | nil => rfl
  | cons c rest ih =>
    rcases attempt_cases s r t c with
      ⟨w, hw, hfree, hattempt⟩ | ⟨w, e, hw, hfault, hattempt⟩ | ⟨e, hfailed, hslow, hattempt⟩ |
      ⟨e, hfailed, hfast, hattempt⟩
    · simp only [runAll, hattempt] at hok
      -- the run returned, so the rest of it did
      rw [writtenBy_cons_written hw hfree, List.filterMap_cons_some hw]
      cases hrest : (runAll s r (w.write s t).tree rest).outcome with
      | error e =>
        rw [hrest] at hok
        cases hok
      | ok others => rw [ih hrest]
    · simp only [runAll, hattempt] at hok
      cases hok
    · have hnone : rendering? s r c = none := rendering?_eq_none_iff.mpr ⟨e, hfailed⟩
      simp only [runAll, hattempt] at hok
      rw [writtenBy_cons_failed hnone, hslow, List.filterMap_cons_none hnone]
      exact ih hok
    · simp only [runAll, hattempt] at hok
      cases hok

/-- A batch that returns has written all its renderings. -/
theorem written_eq_renderings {records : List EntityRecord}
    (hok : (generate s t).outcome = .ok records) : written s t = renderings s t := by
  cases hdiscover : (discover s t).outcome with
  | error e =>
    simp only [generate, hdiscover] at hok
    cases hok
  | ok r =>
    simp only [generate, hdiscover] at hok
    simp only [written, renderings, hdiscover]
    exact writtenBy_eq_filterMap hok

end OrmMapping
