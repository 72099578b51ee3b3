import OrmMapping.Proofs.Batch.Discovery
import OrmMapping.Proofs.Entity.Identity
import OrmMapping.Proofs.Roster.Resolution

/-!
# Renderings

Once its roster is known, what a batch renders does not depend on the files any more. A run that
comes to its end has written the renderings of the roster in turn, with a record for each, and has
logged every candidate that has none.

* `Rendering`, `rendering?`: what a candidate is mapped to;
* `attempt_cases`: all that one candidate can do;
* `Completes`, `runAll_completes`: what a run to the end has done;
* `Rendering.exists_candidate_of_reference`: every reference in a rendered document means a
  candidate.
-/

namespace OrmMapping

/-- A candidate with the entity and the document that it is mapped to. -/
structure Rendering where
  candidate : Candidate
  entity : MappedEntity
  document : Document

namespace Rendering

/-- The record of the entity. -/
def record (s : Settings) (w : Rendering) : EntityRecord :=
  .of s w.candidate w.entity

/-- The references in the document. -/
def references (w : Rendering) : List String :=
  w.document.entity.references

/-- Writing the document. -/
def write (s : Settings) (t : FileTree) (w : Rendering) : FileTree.Change :=
  t.writeIn (s.outputDirectory w.candidate.source.path) (w.record s).documentPath w.document.bytes

/-- The error that a batch ends with when writing the document fails. -/
def writeError (s : Settings) (w : Rendering) (e : FileError) : BatchError :=
  if e.fault == .nullCharacter then .unusablePath e
  else .write w.entity.entityName (w.record s).documentPath e

/-- The tree after writing documents in turn. -/
def writeAll (s : Settings) (t : FileTree) (ws : List Rendering) : FileTree :=
  ws.foldl (fun t w => (w.write s t).tree) t

end Rendering

/-- The rendering of a candidate, if it can be mapped. -/
def rendering? (s : Settings) (r : Roster) (c : Candidate) : Option Rendering :=
  match (mapCandidate s r c).outcome with
  | .ok (e, d) => some ⟨c, e, d⟩
  | .error _ => none

/-- What a batch renders: all candidates of its roster that can be mapped. -/
def renderings (s : Settings) (t : FileTree) : List Rendering :=
  match (discover s t).outcome with
  | .ok r => r.candidates.filterMap (rendering? s r)
  | .error _ => []

variable {s : Settings} {r : Roster} {t : FileTree} {c : Candidate} {w : Rendering}

/-- The steps of `mapCandidate` when all succeed: the descriptor is mapped, the roster resolves what
came of it, and the document holds the element of the resolved entity. -/
theorem mapCandidate_eq_ok {e : MappedEntity} {d : Document}
    (h : (mapCandidate s r c).outcome = .ok (e, d)) :
    ∃ mapped, (MappedEntity.ofDescriptor c.descriptor s.datasource).outcome = .ok mapped ∧
      r.resolve mapped = .ok e ∧ d.entity = e.element s.quoteIdentifiers := by
  simp only [mapCandidate, Report.bind_def, Report.outcome_andThen_eq_ok, Report.liftM_def,
    Report.outcome_ofExcept] at h
  obtain ⟨mapped, hmapped, resolved, hresolved, document, hdocument, hpair⟩ := h
  cases hpair
  refine ⟨mapped, hmapped, hresolved, ?_⟩
  unfold buildDocument MappedEntity.document at hdocument
  split at hdocument
  · cases hdocument
  · cases hdocument
    rfl

/-- A rendering has its candidate, and the entity and document that `mapCandidate` returned for
it. -/
theorem rendering?_eq_some_iff :
    rendering? s r c = some w ↔
      w.candidate = c ∧ (mapCandidate s r c).outcome = .ok (w.entity, w.document) := by
  unfold rendering?
  cases houtcome : (mapCandidate s r c).outcome with
  | error e => simp
  | ok pair =>
    obtain ⟨e, d⟩ := pair
    constructor
    · intro h
      cases h
      exact ⟨rfl, rfl⟩
    · rintro ⟨rfl, h⟩
      cases h
      rfl

/-- There is no rendering exactly when mapping the candidate failed. -/
theorem rendering?_eq_none_iff :
    rendering? s r c = none ↔ ∃ e, (mapCandidate s r c).outcome = .error e := by
  unfold rendering?
  cases (mapCandidate s r c).outcome <;> simp

/-- There is a rendering exactly when mapping the candidate succeeded. -/
theorem exists_rendering_iff :
    (∃ w, rendering? s r c = some w) ↔ ∃ e d, (mapCandidate s r c).outcome = .ok (e, d) := by
  constructor
  · rintro ⟨w, hw⟩
    exact ⟨w.entity, w.document, (rendering?_eq_some_iff.mp hw).2⟩
  · rintro ⟨e, d, hmap⟩
    exact ⟨⟨c, e, d⟩, rendering?_eq_some_iff.mpr ⟨rfl, hmap⟩⟩

/-- A rendering among those of `cs` is that of its own candidate, and this candidate is one of
`cs`. -/
theorem mem_filterMap_rendering? {cs : List Candidate} :
    w ∈ cs.filterMap (rendering? s r) ↔
      w.candidate ∈ cs ∧ rendering? s r w.candidate = some w := by
  rw [List.mem_filterMap]
  constructor
  · rintro ⟨c, hc, hw⟩
    obtain ⟨rfl, -⟩ := rendering?_eq_some_iff.mp hw
    exact ⟨hc, hw⟩
  · rintro ⟨hc, hw⟩
    exact ⟨w.candidate, hc, hw⟩

/-- The candidates of renderings come in the order of the candidates. -/
theorem sublist_filterMap_rendering? (cs : List Candidate) :
    ((cs.filterMap (rendering? s r)).map (·.candidate)).Sublist cs := by
  induction cs with
  | nil => exact List.Sublist.refl []
  | cons c rest ih =>
    cases hw : rendering? s r c with
    | none =>
      rw [List.filterMap_cons_none hw]
      exact ih.cons c
    | some w =>
      rw [List.filterMap_cons_some hw, List.map_cons, (rendering?_eq_some_iff.mp hw).1]
      exact ih.cons_cons c

/-- When all candidates are rendered, nothing is left out. -/
theorem map_filterMap_rendering? {cs : List Candidate}
    (hall : ∀ c ∈ cs, ∃ w, rendering? s r c = some w) :
    (cs.filterMap (rendering? s r)).map (·.candidate) = cs := by
  induction cs with
  | nil => rfl
  | cons c rest ih =>
    obtain ⟨w, hw⟩ := hall c List.mem_cons_self
    have hrest := ih fun x hx => hall x (List.mem_cons_of_mem _ hx)
    rw [List.filterMap_cons_some hw, List.map_cons, hrest, (rendering?_eq_some_iff.mp hw).1]

/-! ## One candidate -/

/-- The warnings on a candidate. -/
def warnings (s : Settings) (r : Roster) (c : Candidate) : List LogRecord :=
  (mapCandidate s r c).notices.map LogRecord.warning

/-- Writing without error (`hfree`) gives the record of the rendering. -/
theorem writeDocument_eq_written (hfree : (w.write s t).error? = none) :
    writeDocument s t w.candidate w.entity w.document =
      .written (w.record s) (w.write s t).tree := by
  simp only [Rendering.write, Rendering.record] at hfree ⊢
  simp only [writeDocument, hfree]

/-- An error in writing (`hfault`) ends the batch, and the tree keeps what was done before it. -/
theorem writeDocument_eq_ended {e : FileError} (hfault : (w.write s t).error? = some e) :
    writeDocument s t w.candidate w.entity w.document =
      .ended (w.writeError s e) (w.write s t).tree := by
  simp only [Rendering.write, Rendering.writeError, Rendering.record] at hfault ⊢
  simp only [writeDocument, hfault]

/-- All that a candidate can do: its document is written or cannot be written, or there is none, and
then it is left out or ends the batch. -/
theorem attempt_cases (s : Settings) (r : Roster) (t : FileTree) (c : Candidate) :
    (∃ w, rendering? s r c = some w ∧ (w.write s t).error? = none ∧
      attempt s r t c = (warnings s r c, .written (w.record s) (w.write s t).tree)) ∨
    (∃ w e, rendering? s r c = some w ∧ (w.write s t).error? = some e ∧
      attempt s r t c = (warnings s r c, .ended (w.writeError s e) (w.write s t).tree)) ∨
    (∃ e, (mapCandidate s r c).outcome = .error e ∧ s.failFast = false ∧
      attempt s r t c =
        (warnings s r c ++ [.skipped c.entityName (.mapping e)], .leftOut e)) ∨
    (∃ e, (mapCandidate s r c).outcome = .error e ∧ s.failFast = true ∧
      attempt s r t c = (warnings s r c, .ended (.mapping e) t)) := by
  cases houtcome : (mapCandidate s r c).outcome with
  | ok pair =>
    obtain ⟨e, d⟩ := pair
    have hw : rendering? s r c = some ⟨c, e, d⟩ := by
      rw [rendering?, houtcome]
    have hattempt : attempt s r t c = (warnings s r c, writeDocument s t c e d) := by
      rw [attempt, houtcome]
      rfl
    cases herror : ((⟨c, e, d⟩ : Rendering).write s t).error? with
    | none =>
      refine Or.inl ⟨⟨c, e, d⟩, hw, herror, ?_⟩
      rw [hattempt, writeDocument_eq_written herror]
    | some error =>
      refine Or.inr (Or.inl ⟨⟨c, e, d⟩, error, hw, herror, ?_⟩)
      rw [hattempt, writeDocument_eq_ended herror]
  | error e =>
    cases hfast : s.failFast with
    | false =>
      refine Or.inr (Or.inr (Or.inl ⟨e, rfl, rfl, ?_⟩))
      simp [attempt, houtcome, hfast, warnings]
    | true =>
      refine Or.inr (Or.inr (Or.inr ⟨e, rfl, rfl, ?_⟩))
      simp [attempt, houtcome, hfast, warnings]

/-! ## A run to the end -/

/-- What a run over some candidates has done when it returns. -/
structure Completes (s : Settings) (r : Roster) (t : FileTree) (cs : List Candidate) (run : Run) :
    Prop where
  outcome : run.outcome = .ok ((cs.filterMap (rendering? s r)).map (·.record s))
  tree : run.tree = Rendering.writeAll s t (cs.filterMap (rendering? s r))
  all : s.failFast = true → ∀ c ∈ cs, ∃ w, rendering? s r c = some w
  logged : ∀ c ∈ cs, ∀ e, (mapCandidate s r c).outcome = .error e →
    .skipped c.entityName (.mapping e) ∈ run.log

variable {cs : List Candidate} {run : Run} {log : List LogRecord}

/-- Without candidates a run returns no records and changes nothing. -/
theorem completes_nil : Completes s r t [] ⟨[], t, .ok []⟩ :=
  ⟨rfl, rfl, by simp, by simp⟩

/-- The record of a written document comes before those of the rest, which run on the files that it
leaves. -/
theorem Completes.written (h : Completes s r (w.write s t).tree cs run)
    (hw : rendering? s r c = some w) :
    Completes s r t (c :: cs)
      ⟨log ++ run.log, run.tree, run.outcome.map (w.record s :: ·)⟩ := by
  constructor
  · rw [h.outcome, List.filterMap_cons_some hw]
    rfl
  · rw [List.filterMap_cons_some hw]
    exact h.tree
  · intro hfast
    exact List.forall_mem_cons.mpr ⟨⟨w, hw⟩, h.all hfast⟩
  · refine List.forall_mem_cons.mpr ⟨?_, ?_⟩
    · -- the candidate did not fail
      intro e hfailed
      rw [(rendering?_eq_some_iff.mp hw).2] at hfailed
      cases hfailed
    · intro x hx e hfailed
      exact List.mem_append_right _ (h.logged x hx e hfailed)

/-- A candidate that is left out has no record and no document, but a log record; `hslow` says that
the batch goes on after errors. -/
theorem Completes.leftOut {e : MappingError} (h : Completes s r t cs run)
    (hfailed : (mapCandidate s r c).outcome = .error e) (hslow : s.failFast = false) :
    Completes s r t (c :: cs)
      { run with log := (log ++ [.skipped c.entityName (.mapping e)]) ++ run.log } := by
  have hnone : rendering? s r c = none := rendering?_eq_none_iff.mpr ⟨e, hfailed⟩
  constructor
  · rw [List.filterMap_cons_none hnone]
    exact h.outcome
  · rw [List.filterMap_cons_none hnone]
    exact h.tree
  · intro hfast
    rw [hslow] at hfast
    cases hfast
  · refine List.forall_mem_cons.mpr ⟨?_, ?_⟩
    · intro other hother
      rw [hfailed] at hother
      cases hother
      exact List.mem_append_left _ (List.mem_append_right _ (List.mem_singleton_self _))
    · intro x hx other hother
      exact List.mem_append_right _ (h.logged x hx other hother)

/-- A run over candidates that returns has done what `Completes` says. By induction over the
candidates, along `attempt_cases`; in the two cases that end a batch, `h` cannot hold. -/
theorem runAll_completes {records : List EntityRecord}
    (h : (runAll s r t cs).outcome = .ok records) :
    Completes s r t cs (runAll s r t cs) := by
  induction cs generalizing t records with
  | nil => exact completes_nil
  | cons c rest ih =>
    rcases attempt_cases s r t c with
      ⟨w, hw, -, hattempt⟩ | ⟨w, e, -, -, hattempt⟩ | ⟨e, hfailed, hslow, hattempt⟩ |
      ⟨e, -, -, hattempt⟩
    · -- a document is written, and the rest returns as well
      simp only [runAll, hattempt] at h ⊢
      cases hrest : (runAll s r (w.write s t).tree rest).outcome with
      | error e =>
        rw [hrest] at h
        cases h
      | ok others =>
        rw [← hrest]
        exact (ih hrest).written hw
    · -- a document that cannot be written ends every run
      simp only [runAll, hattempt] at h
      cases h
    · -- the candidate is left out
      simp only [runAll, hattempt] at h ⊢
      exact (ih h).leftOut hfailed hslow
    · -- so does an error in a batch that stops at its first
      simp only [runAll, hattempt] at h
      cases h

/-- A batch that returns has found a roster and gone through all its candidates. -/
theorem generate_completes {records : List EntityRecord}
    (h : (generate s t).outcome = .ok records) :
    ∃ r, (discover s t).outcome = .ok r ∧ renderings s t = r.candidates.filterMap (rendering? s r) ∧
      Completes s r t r.candidates (generate s t) := by
  cases hdiscover : (discover s t).outcome with
  | error e =>
    simp only [generate, hdiscover] at h
    cases h
  | ok r =>
    simp only [generate, hdiscover] at h ⊢
    have run := runAll_completes h
    -- the log of discovery comes before that of the run
    refine ⟨r, rfl, by rw [renderings, hdiscover], run.outcome, run.tree, run.all, ?_⟩
    intro c hc e hfailed
    exact List.mem_append_right _ (run.logged c hc e hfailed)

/-! ## What a rendering has from its candidate -/

namespace Rendering

/-- An entity keeps the name and the datasource that it was registered with. -/
theorem identity_of_readFrom (hw : rendering? s r c = some w) (hread : c.ReadFrom s t) :
    w.entity.entityName = c.entityName ∧ w.entity.datasource = c.datasource := by
  obtain ⟨-, hmap⟩ := rendering?_eq_some_iff.mp hw
  obtain ⟨mapped, hmapped, hresolved, -⟩ := mapCandidate_eq_ok hmap
  obtain ⟨hname, hdatasource⟩ := MappedEntity.ofDescriptor_eq_ok hmapped
  obtain ⟨-, -, hentity⟩ := Roster.resolve_eq_ok_iff.mp hresolved
  -- name and datasource are read once more when the candidate is mapped, from the same descriptor
  rw [hread.entityName] at hname
  rw [hread.datasource] at hdatasource
  rw [hentity]
  exact ⟨(Except.ok.inj hname).symm, (Except.ok.inj hdatasource).symm⟩

/-- Every reference in a document means a candidate in the datasource of the entity. -/
theorem exists_candidate_of_reference {cs : List Candidate} (hr : r.Represents cs)
    (hw : rendering? s r c = some w) {reference : String} (href : reference ∈ w.references) :
    ∃ x ∈ cs, x.datasource = w.entity.datasource ∧
      r.StandsFor w.entity.datasource reference x.entityName := by
  obtain ⟨-, hmap⟩ := rendering?_eq_some_iff.mp hw
  obtain ⟨mapped, -, hresolved, helement⟩ := mapCandidate_eq_ok hmap
  have hsame : w.entity.datasource = mapped.datasource := by
    obtain ⟨-, -, hentity⟩ := Roster.resolve_eq_ok_iff.mp hresolved
    rw [hentity]
    rfl
  rw [references, helement, MappedEntity.references_element] at href
  obtain ⟨written, name, hfound, hstands⟩ := Roster.references_resolve hresolved href
  obtain ⟨x, hx, hdatasource, rfl⟩ := hr.exists_of_lookup hfound
  rw [hsame]
  exact ⟨x, hx, hdatasource, hstands⟩

end Rendering

end OrmMapping
