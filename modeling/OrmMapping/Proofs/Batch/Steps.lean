import Mathlib.Logic.Function.Iterate
import OrmMapping.Proofs.Batch.Documents
import OrmMapping.Proofs.Files.Contents

/-!
# Batches step by step

A batch that is run step by step gives one record with each step until it ends. The first step goes
through all sources; from then on each step takes the candidates up to the next one whose document
is written, and no further. So after any number of steps the batch has done the first part of what
a run to the end does.

* `Progress`, `Progress.next`: a batch on the way, with its log and what its steps gave;
* `alone`: a batch after some steps on its own;
* `Takes`, `exists_takes`: a step that writes a document;
* `Pulls`, `exists_pulls`: any number of steps that write;
* `advance_last`, `steps_to_end`: the last step;
* `alone_finished`: a batch that is run to its end.
-/

namespace OrmMapping

/-! ## Progress -/

/-- A batch on the way: where it stands, what it has logged, and what each step gave. -/
structure Progress where
  batch : Batch
  log : List LogRecord := []
  outcomes : List (Except BatchError (Option EntityRecord)) := []

namespace Progress

/-- The record that a step gave, if it gave one. -/
def recordOf? : Except BatchError (Option EntityRecord) → Option EntityRecord
  | .ok record => record
  | .error _ => none

/-- The records that the steps gave. -/
def records (p : Progress) : List EntityRecord :=
  p.outcomes.filterMap recordOf?

/-- The progress after one more step. -/
def after (p : Progress) (step : Step) : Progress where
  batch := step.batch
  log := p.log ++ step.log
  outcomes := p.outcomes ++ [step.outcome]

/-- Takes one step on a file tree. -/
def next (x : Progress × FileTree) : Progress × FileTree :=
  (x.1.after (x.1.batch.next x.2), (x.1.batch.next x.2).tree)

end Progress

/-- A batch after some steps that nothing else comes between. -/
def alone (s : Settings) (t : FileTree) (steps : Nat) : Progress × FileTree :=
  Progress.next^[steps] ({ batch := { settings := s } }, t)

variable {s : Settings} {r : Roster} {t u : FileTree} {c : Candidate} {w : Rendering}
  {ws first : List Rendering} {cs front back : List Candidate} {log : List LogRecord}
  {outcomes : List (Except BatchError (Option EntityRecord))}

/-! ## One step -/

/-- What is logged on a candidate that a batch goes on after. -/
def logged (s : Settings) (r : Roster) (c : Candidate) : List LogRecord :=
  warnings s r c ++
    match (mapCandidate s r c).outcome with
    | .ok _ => []
    | .error e => [.skipped c.entityName (.mapping e)]

/-- A candidate with a rendering is logged with its warnings alone. -/
theorem logged_of_rendering? (h : rendering? s r c = some w) :
    logged s r c = warnings s r c := by
  unfold logged
  rw [(rendering?_eq_some_iff.mp h).2, List.append_nil]

/-- What a step has done that wrote a document: it took some candidates, of which only the last has
a document, whatever comes after them. A run to the end does the same at its start. -/
structure Takes (s : Settings) (r : Roster) (t : FileTree) (cs : List Candidate) (w : Rendering) :
    Prop where
  last : cs.getLast? = some w.candidate
  rendered : cs.filterMap (rendering? s r) = [w]
  free : (w.write s t).error? = none
  advance : ∀ others, Batch.advance s r t (cs ++ others) =
    ⟨cs.flatMap (logged s r), (w.write s t).tree, .ok (some (w.record s)),
      ⟨s, .running r others⟩⟩
  runAll : ∀ others, runAll s r t (cs ++ others) =
    ⟨cs.flatMap (logged s r) ++ (runAll s r (w.write s t).tree others).log,
      (runAll s r (w.write s t).tree others).tree,
      (runAll s r (w.write s t).tree others).outcome.map (w.record s :: ·)⟩

/-- A candidate whose document can be written (`hfree`) makes up a step by itself. -/
theorem takes_singleton (hw : rendering? s r c = some w) (hfree : (w.write s t).error? = none) :
    Takes s r t [c] w := by
  obtain ⟨rfl, hmap⟩ := rendering?_eq_some_iff.mp hw
  have hattempt : attempt s r t w.candidate =
      (warnings s r w.candidate, .written (w.record s) (w.write s t).tree) := by
    rw [attempt, hmap]
    exact Prod.ext rfl (writeDocument_eq_written hfree)
  constructor
  · rfl
  · rw [List.filterMap_cons_some hw, List.filterMap_nil]
  · exact hfree
  · intro others
    simp only [List.cons_append, List.nil_append, Batch.advance, hattempt, List.flatMap_cons,
      List.flatMap_nil, List.append_nil, logged_of_rendering? hw]
  · intro others
    simp only [List.cons_append, List.nil_append, OrmMapping.runAll, hattempt, List.flatMap_cons,
      List.flatMap_nil, List.append_nil, logged_of_rendering? hw]

/-- A candidate that is left out can come before those of a step: it adds to the log, and the step
goes on to the next one, since `hslow` says that errors do not end the batch. -/
theorem Takes.cons {e : MappingError} (h : Takes s r t cs w)
    (hfailed : (mapCandidate s r c).outcome = .error e) (hslow : s.failFast = false) :
    Takes s r t (c :: cs) w := by
  have hattempt : attempt s r t c = (logged s r c, .leftOut e) := by
    simp [attempt, hfailed, hslow, logged, warnings]
  constructor
  · rw [List.getLast?_cons, h.last, Option.getD_some]
  · rw [List.filterMap_cons_none (rendering?_eq_none_iff.mpr ⟨e, hfailed⟩), h.rendered]
  · exact h.free
  · intro others
    simp only [List.cons_append, Batch.advance, hattempt, h.advance, List.flatMap_cons]
  · intro others
    simp only [List.cons_append, OrmMapping.runAll, hattempt, h.runAll, List.flatMap_cons,
      List.append_assoc]

/-- While there is a document to write, a step writes it: the candidates split into those that it
takes and those that it leaves. By induction over the candidates, up to the first that has a
document. -/
theorem exists_takes (h : writtenBy s r t cs = w :: ws) :
    ∃ taken back, cs = taken ++ back ∧ Takes s r t taken w ∧
      writtenBy s r (w.write s t).tree back = ws := by
  induction cs with
  | nil => cases h
  | cons c rest ih =>
    rcases attempt_cases s r t c with
      ⟨v, hv, hfree, hattempt⟩ | ⟨v, e, hv, hfault, hattempt⟩ | ⟨e, hfailed, hslow, hattempt⟩ |
      ⟨e, hfailed, hfast, hattempt⟩
    · -- the first candidate has a document
      rw [writtenBy_cons_written hv hfree] at h
      obtain ⟨rfl, hrest⟩ := List.cons.inj h
      exact ⟨[c], rest, rfl, takes_singleton hv hfree, hrest⟩
    · -- nothing would be written
      rw [writtenBy_cons_blocked hv hfault] at h
      cases h
    · -- the first candidate is left out
      rw [writtenBy_cons_failed (rendering?_eq_none_iff.mpr ⟨e, hfailed⟩), hslow,
        if_neg Bool.false_ne_true] at h
      obtain ⟨taken, back, rfl, htakes, hback⟩ := ih h
      exact ⟨c :: taken, back, rfl, htakes.cons hfailed hslow, hback⟩
    · -- nor after an error that ends the batch
      rw [writtenBy_cons_failed (rendering?_eq_none_iff.mpr ⟨e, hfailed⟩), hfast, if_pos rfl] at h
      cases h

/-- A step that writes no document ends the batch, as a run to the end does. -/
theorem advance_last (h : writtenBy s r t cs = []) :
    Batch.advance s r t cs =
      ⟨(runAll s r t cs).log, (runAll s r t cs).tree,
        (runAll s r t cs).outcome.map fun _ => none, ⟨s, .finished⟩⟩ := by
  induction cs with
  | nil => rfl
  | cons c rest ih =>
    rcases attempt_cases s r t c with
      ⟨v, hv, hfree, -⟩ | ⟨v, e, -, -, hattempt⟩ | ⟨e, hfailed, hslow, hattempt⟩ |
      ⟨e, -, -, hattempt⟩
    · -- a document would be written, against `h`
      rw [writtenBy_cons_written hv hfree] at h
      cases h
    · simp only [Batch.advance, runAll, hattempt]
      rfl
    · rw [writtenBy_cons_failed (rendering?_eq_none_iff.mpr ⟨e, hfailed⟩), hslow,
        if_neg Bool.false_ne_true] at h
      simp only [Batch.advance, runAll, hattempt, ih h]
    · simp only [Batch.advance, runAll, hattempt]
      rfl

/-! ## Several steps -/

/-- A batch among its candidates, with its log and outcomes so far. -/
def amongst (s : Settings) (r : Roster) (cs : List Candidate) (log : List LogRecord)
    (outcomes : List (Except BatchError (Option EntityRecord))) : Progress where
  batch := ⟨s, .running r cs⟩
  log := log
  outcomes := outcomes

/-- What steps have done that wrote some documents: they took some candidates, of which those of the
documents are all that have one and the last of them comes last, whatever comes after. A run to the
end does the same at its start. -/
structure Pulls (s : Settings) (r : Roster) (t : FileTree) (cs : List Candidate)
    (ws : List Rendering) : Prop where
  last : cs.getLast? = ws.getLast?.map (·.candidate)
  rendered : cs.filterMap (rendering? s r) = ws
  steps : ∀ log outcomes others,
    Progress.next^[ws.length] (amongst s r (cs ++ others) log outcomes, t) =
      (amongst s r others (log ++ cs.flatMap (logged s r))
        (outcomes ++ ws.map fun w => .ok (some (w.record s))), Rendering.writeAll s t ws)
  runAll : ∀ others, runAll s r t (cs ++ others) =
    ⟨cs.flatMap (logged s r) ++ (runAll s r (Rendering.writeAll s t ws) others).log,
      (runAll s r (Rendering.writeAll s t ws) others).tree,
      (runAll s r (Rendering.writeAll s t ws) others).outcome.map (ws.map (·.record s) ++ ·)⟩

/-- No steps take no candidates and change nothing. -/
theorem pulls_nil (s : Settings) (r : Roster) (t : FileTree) : Pulls s r t [] [] := by
  constructor
  · rfl
  · rfl
  · intro log outcomes others
    simp [Rendering.writeAll]
  · intro others
    show OrmMapping.runAll s r t others = _
    simp only [Rendering.writeAll, List.foldl_nil, List.flatMap_nil, List.map_nil, List.nil_append]
    -- mapping over an outcome leaves an error as it is, so both cases are equal
    generalize OrmMapping.runAll s r t others = run
    obtain ⟨runLog, tree, _ | records⟩ := run
    · rfl
    · rfl

/-- A step that writes `w`, and then steps that write `ws`. -/
theorem Takes.pulls {rest : List Candidate} (h : Takes s r t cs w)
    (hrest : Pulls s r (w.write s t).tree rest ws) : Pulls s r t (cs ++ rest) (w :: ws) := by
  constructor
  · rw [List.getLast?_append, hrest.last, h.last, List.getLast?_cons]
    cases ws.getLast? <;> rfl
  · rw [List.filterMap_append, h.rendered, hrest.rendered]
    rfl
  · intro log outcomes others
    have hnext : Progress.next (amongst s r (cs ++ (rest ++ others)) log outcomes, t) =
        (amongst s r (rest ++ others) (log ++ cs.flatMap (logged s r))
          (outcomes ++ [.ok (some (w.record s))]), (w.write s t).tree) := by
      simp only [Progress.next, Progress.after, amongst, Batch.next, h.advance]
    rw [List.length_cons, Function.iterate_succ_apply, List.append_assoc, hnext, hrest.steps]
    simp [Rendering.writeAll]
  · intro others
    rw [List.append_assoc, h.runAll, hrest.runAll, List.flatMap_append, List.append_assoc]
    simp only [Rendering.writeAll, List.foldl_cons]
    generalize OrmMapping.runAll s r (ws.foldl _ _) others = run
    obtain ⟨runLog, tree, _ | records⟩ := run
    · rfl
    · rfl

/-- While there are documents to write, steps write them: those of `first` take a first part of the
candidates and leave `ws` to be written. By induction over `first`, with `exists_takes` for each
step. -/
theorem exists_pulls (h : writtenBy s r t cs = first ++ ws) :
    ∃ taken back, cs = taken ++ back ∧ Pulls s r t taken first ∧
      writtenBy s r (Rendering.writeAll s t first) back = ws := by
  induction first generalizing t cs with
  | nil => exact ⟨[], cs, rfl, pulls_nil s r t, h⟩
  | cons w others ih =>
    obtain ⟨taken, rest, rfl, htakes, hrest⟩ := exists_takes h
    obtain ⟨further, back, rfl, hpulls, hback⟩ := ih hrest
    exact ⟨taken ++ further, back, (List.append_assoc ..).symm, htakes.pulls hpulls, hback⟩

/-- One step more than there are documents to write ends the batch, as a run to the end does. -/
theorem steps_to_end (s : Settings) (r : Roster) (t : FileTree) (cs : List Candidate)
    (log : List LogRecord) (outcomes : List (Except BatchError (Option EntityRecord))) :
    Progress.next^[(writtenBy s r t cs).length + 1] (amongst s r cs log outcomes, t) =
      ({ batch := ⟨s, .finished⟩, log := log ++ (runAll s r t cs).log,
         outcomes := outcomes ++ (writtenBy s r t cs).map (fun w => .ok (some (w.record s))) ++
           [(runAll s r t cs).outcome.map fun _ => none] }, (runAll s r t cs).tree) := by
  generalize hws : writtenBy s r t cs = ws
  obtain ⟨taken, back, rfl, hpulls, hback⟩ := exists_pulls (hws.trans (List.append_nil ws).symm)
  rw [Function.iterate_succ_apply', hpulls.steps, hpulls.runAll]
  simp only [Progress.next, Progress.after, amongst, Batch.next, advance_last hback,
    List.append_assoc]
  cases (runAll s r (Rendering.writeAll s t ws) back).outcome with
  | error e => rfl
  | ok records => rfl

/-! ## From the start -/

/-- The first step goes through all sources before it takes a candidate. -/
theorem next_pending (hr : (discover s t).outcome = .ok r) :
    Progress.next ({ batch := { settings := s } }, t) =
      Progress.next (amongst s r r.candidates (discover s t).log [], t) := by
  simp only [Progress.next, Progress.after, amongst, Batch.next, hr, List.nil_append]

/-- After its first step, a batch is where it would be if it had begun among the candidates that
discovery finds. `hk` is needed because before that step it is still pending. -/
theorem alone_running (hr : (discover s t).outcome = .ok r) {k : Nat} (hk : 0 < k) :
    alone s t k = Progress.next^[k] (amongst s r r.candidates (discover s t).log [], t) := by
  obtain ⟨n, rfl⟩ := Nat.exists_eq_add_one_of_ne_zero (Nat.ne_of_gt hk)
  rw [alone, Function.iterate_succ_apply, next_pending hr, ← Function.iterate_succ_apply]

/-- One step more than there are documents to write ends the batch, as a run to the end does. -/
theorem alone_finished (s : Settings) (t : FileTree) :
    alone s t ((written s t).length + 1) =
      ({ batch := ⟨s, .finished⟩, log := (generate s t).log,
         outcomes := (written s t).map (fun w => .ok (some (w.record s))) ++
           [(generate s t).outcome.map fun _ => none] }, (generate s t).tree) := by
  cases hdiscover : (discover s t).outcome with
  | error e =>
    simp only [alone, written, hdiscover, List.length_nil, Nat.zero_add, Function.iterate_one,
      Progress.next, Progress.after, Batch.next, generate]
    rfl
  | ok r =>
    rw [alone_running hdiscover (Nat.succ_pos _)]
    simp only [written, generate, hdiscover, steps_to_end, List.nil_append]

/-- The outcomes of steps that write give their records back. -/
theorem filterMap_recordOf? (s : Settings) (ws : List Rendering) :
    (ws.map fun w => .ok (some (w.record s))).filterMap Progress.recordOf? =
      ws.map (·.record s) := by
  have hrecord : Progress.recordOf? ∘ (fun w : Rendering => .ok (some (w.record s))) =
      some ∘ (·.record s) := rfl
  rw [List.filterMap_map, hrecord, ← List.filterMap_map, List.filterMap_some]

/-- The steps up to the end give the records of the documents that were written; the last step gives
none. -/
theorem records_finished (s : Settings) (t : FileTree) :
    (alone s t ((written s t).length + 1)).1.records = (written s t).map (·.record s) := by
  have hlast : Progress.recordOf? ((generate s t).outcome.map fun _ => none) = none := by
    cases (generate s t).outcome <;> rfl
  rw [alone_finished, Progress.records, List.filterMap_append, List.filterMap_cons_none hlast,
    List.filterMap_nil, List.append_nil, filterMap_recordOf?]

end OrmMapping
