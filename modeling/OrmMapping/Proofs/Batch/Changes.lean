import OrmMapping.Proofs.Batch.Steps

/-!
# What batches change

The document of a class is made up in full before anything is written. So a class that cannot be
mapped, whose references lead nowhere or whose document XML does not allow leaves the files as they
are, and the only files that a batch changes are the documents of its records. A document that
cannot be written changes no file either: at most its directory is made.

* `Leaves`, `next_leaves`: what a step does to the files;
* `changed_of_next`: a file that a step changes;
* `changed_among_records`: the files that a batch changes.
-/

namespace OrmMapping

variable {s : Settings} {r : Roster} {t : FileTree} {c : Candidate} {cs : List Candidate}
  {place : Place} {step : Step} {b : Batch}

/-! ## One step -/

/-- What a step among some candidates does to the files: it writes the document of its record, or it
leaves everything as it is, or it fails on writing a document. -/
inductive Leaves (s : Settings) (r : Roster) (t : FileTree) (cs : List Candidate) (step : Step) :
    Prop
  | wrote (w : Rendering) (mem : w.candidate ∈ cs) (rendered : rendering? s r w.candidate = some w)
      (free : (w.write s t).error? = none) (outcome : step.outcome = .ok (some (w.record s)))
      (tree : step.tree = (w.write s t).tree)
  | nothing (outcome : ∀ record, step.outcome ≠ .ok (some record)) (tree : step.tree = t)
  | blocked (w : Rendering) (e : FileError) (mem : w.candidate ∈ cs)
      (rendered : rendering? s r w.candidate = some w) (fault : (w.write s t).error? = some e)
      (outcome : step.outcome = .error (w.writeError s e)) (tree : step.tree = (w.write s t).tree)

/-- More candidates and more in the log make no difference. -/
theorem Leaves.mono {cs' : List Candidate} {log : List LogRecord} (h : Leaves s r t cs step)
    (hsub : ∀ x ∈ cs, x ∈ cs') : Leaves s r t cs' { step with log } := by
  cases h with
  | wrote w mem rendered free outcome tree =>
    exact .wrote w (hsub _ mem) rendered free outcome tree
  | nothing outcome tree => exact .nothing outcome tree
  | blocked w e mem rendered fault outcome tree =>
    exact .blocked w e (hsub _ mem) rendered fault outcome tree

/-- A step among `cs` does one of these to the files. -/
theorem advance_leaves (s : Settings) (r : Roster) (t : FileTree) (cs : List Candidate) :
    Leaves s r t cs (Batch.advance s r t cs) := by
  -- the step goes past the candidates that are left out
  induction cs with
  | nil => exact .nothing (fun record hrecord => by cases hrecord) rfl
  | cons c rest ih =>
    rcases attempt_cases s r t c with
      ⟨w, hw, hfree, hattempt⟩ | ⟨w, e, hw, hfault, hattempt⟩ | ⟨e, -, -, hattempt⟩ |
      ⟨e, -, -, hattempt⟩
    · obtain ⟨rfl, -⟩ := rendering?_eq_some_iff.mp hw
      simp only [Batch.advance, hattempt]
      exact .wrote w List.mem_cons_self hw hfree rfl rfl
    · obtain ⟨rfl, -⟩ := rendering?_eq_some_iff.mp hw
      simp only [Batch.advance, hattempt]
      exact .blocked w e List.mem_cons_self hw hfault rfl rfl
    · -- the candidate is left out, and the files with it
      simp only [Batch.advance, hattempt]
      exact ih.mono fun x hx => List.mem_cons_of_mem c hx
    · simp only [Batch.advance, hattempt]
      exact .nothing (fun record hrecord => by cases hrecord) rfl

/-- A step of a batch at any stage does one of these, for the roster and the candidates that it has
or finds. -/
theorem next_leaves (b : Batch) (t : FileTree) : ∃ r cs, Leaves b.settings r t cs (b.next t) := by
  have hnothing : ∀ step : Step, step.tree = t → (∀ record, step.outcome ≠ .ok (some record)) →
      Leaves b.settings {} t [] step := fun step htree houtcome => .nothing houtcome htree
  unfold Batch.next
  split
  · exact ⟨{}, [], hnothing _ rfl fun record hrecord => by cases hrecord⟩
  · exact ⟨_, _, advance_leaves b.settings _ t _⟩
  · -- discovery writes nothing
    dsimp only
    split
    · exact ⟨{}, [], hnothing _ rfl fun record hrecord => by cases hrecord⟩
    · exact ⟨_, _, (advance_leaves b.settings _ t _).mono fun x hx => hx⟩

/-- Writing a document makes the files grow, whether it fails or not. -/
theorem write_grows (w : Rendering) (s : Settings) (t : FileTree) :
    t.Grows (w.write s t).tree := by
  rcases t.writeIn_cases (s.outputDirectory w.candidate.source.path) (w.record s).documentPath
    w.document.bytes with ⟨e, -, hmakes⟩ | ⟨-, place, hwrote, -⟩
  · exact (FileTree.addsDirectories_of_makes hmakes).grows
  · exact hwrote.grows

/-- A step makes the files grow. -/
theorem next_grows (b : Batch) (t : FileTree) : t.Grows (b.next t).tree := by
  obtain ⟨r, cs, hleaves⟩ := next_leaves b t
  cases hleaves with
  | wrote w _ _ _ _ tree =>
    rw [tree]
    exact write_grows w b.settings t
  | nothing _ tree =>
    rw [tree]
    exact .refl t
  | blocked w _ _ _ _ _ tree =>
    rw [tree]
    exact write_grows w b.settings t

/-- The step lemma: if the file at `place` holds something else after a step, then the step gave a
record, and the path of its document leads to `place`. -/
theorem changed_of_next (h : (b.next t).tree.content? place ≠ t.content? place) :
    ∃ record, (b.next t).outcome = .ok (some record) ∧
      (b.next t).tree.locate record.documentPath = .ok place := by
  obtain ⟨r, cs, hleaves⟩ := next_leaves b t
  -- a document that was written is the only file that changes; one that could not be written
  -- changes none
  cases hleaves with
  | nothing _ tree =>
    rw [tree] at h
    exact absurd rfl h
  | wrote w _ _ free outcome tree =>
    rw [tree] at h ⊢
    rcases t.writeIn_cases (b.settings.outputDirectory w.candidate.source.path)
      (w.record b.settings).documentPath w.document.bytes with
      ⟨e, hfault, -⟩ | ⟨-, written, hwrote, hothers⟩
    · cases hfault.symm.trans free
    · obtain rfl : place = written := by
        by_contra hother
        exact h (hothers place hother)
      exact ⟨_, outcome, hwrote.locate⟩
  | blocked w e _ _ fault _ tree =>
    rw [tree] at h
    rcases t.writeIn_cases (b.settings.outputDirectory w.candidate.source.path)
      (w.record b.settings).documentPath w.document.bytes with ⟨_, -, hmakes⟩ | ⟨hfree, -⟩
    · exact absurd (FileTree.content?_of_makes hmakes place) h
    · cases hfree.symm.trans fault

/-! ## Several steps -/

namespace Progress

variable {x : Progress × FileTree}

/-- A step of a batch on its way makes the files grow. -/
theorem next_snd_grows (x : Progress × FileTree) : x.2.Grows (next x).2 :=
  next_grows x.1.batch x.2

/-- A step adds the record that it gives, if it gives one. -/
theorem records_next (x : Progress × FileTree) :
    (next x).1.records =
      x.1.records ++ (recordOf? (x.1.batch.next x.2).outcome).toList := by
  simp only [records, next, after, List.filterMap_append]
  cases h : recordOf? (x.1.batch.next x.2).outcome <;> simp [h]

/-- The run lemma: if the file at `place` holds something else after some steps, then one of their
records has a document whose path leads to `place`. -/
theorem changed_of_steps (steps : Nat) (x : Progress × FileTree)
    (h : (next^[steps] x).2.content? place ≠ x.2.content? place) :
    ∃ record ∈ (next^[steps] x).1.records,
      (next^[steps] x).2.locate record.documentPath = .ok place := by
  induction steps with
  | zero => exact absurd rfl h
  | succ n ih =>
    rw [Function.iterate_succ_apply'] at h ⊢
    rw [records_next]
    by_cases hlast : (next (next^[n] x)).2.content? place = (next^[n] x).2.content? place
    · -- an earlier step changed it, and the path still leads there
      rw [hlast] at h
      obtain ⟨record, hmem, hlocate⟩ := ih h
      exact ⟨record, List.mem_append_left _ hmem, (next_snd_grows _).locate hlocate⟩
    · obtain ⟨record, houtcome, hlocate⟩ := changed_of_next hlast
      refine ⟨record, List.mem_append_right _ ?_, hlocate⟩
      rw [houtcome]
      exact List.mem_singleton_self record

end Progress

/-! ## Whole batches -/

/-- After any number of steps, the files that hold something else than before are the documents of
the records that the steps gave. -/
theorem changed_of_alone (s : Settings) (t : FileTree) (steps : Nat) (place : Place)
    (h : (alone s t steps).2.content? place ≠ t.content? place) :
    ∃ record ∈ (alone s t steps).1.records,
      (alone s t steps).2.locate record.documentPath = .ok place :=
  Progress.changed_of_steps steps ({ batch := { settings := s } }, t) h

/-- A class without a document leaves the files as they are, whether it is left out or ends the
batch. So the files that any number of steps change are the documents of the records that the steps
gave. When the batch is at its end, whether it returned or failed, they are the documents of all the
records that it gave. -/
theorem changed_among_records (s : Settings) (t : FileTree) :
    (∀ r u c e, (mapCandidate s r c).outcome = .error e →
      (attempt s r u c).2 = .leftOut e ∨ (attempt s r u c).2 = .ended (.mapping e) u) ∧
    (∀ steps place, (alone s t steps).2.content? place ≠ t.content? place →
      ∃ record ∈ (alone s t steps).1.records,
        (alone s t steps).2.locate record.documentPath = .ok place) ∧
    (∀ place, (generate s t).tree.content? place ≠ t.content? place →
      ∃ w ∈ written s t, (generate s t).tree.locate (w.record s).documentPath = .ok place) ∧
    alone s t ((written s t).length + 1) =
      ({ batch := ⟨s, .finished⟩, log := (generate s t).log,
         outcomes := (written s t).map (fun w => .ok (some (w.record s))) ++
           [(generate s t).outcome.map fun _ => none] }, (generate s t).tree) := by
  refine ⟨fun r u c e hfailed => ?_, changed_of_alone s t, fun place hchanged => ?_,
    alone_finished s t⟩
  · rcases attempt_cases s r u c with
      ⟨w, hw, -⟩ | ⟨w, _, hw, -⟩ | ⟨e', herror, -, hattempt⟩ | ⟨e', herror, -, hattempt⟩
    · cases hfailed.symm.trans (rendering?_eq_some_iff.mp hw).2
    · cases hfailed.symm.trans (rendering?_eq_some_iff.mp hw).2
    · cases hfailed.symm.trans herror
      exact Or.inl (congrArg Prod.snd hattempt)
    · cases hfailed.symm.trans herror
      exact Or.inr (congrArg Prod.snd hattempt)
  · have htree : (alone s t ((written s t).length + 1)).2 = (generate s t).tree :=
      congrArg Prod.snd (alone_finished s t)
    rw [← htree] at hchanged ⊢
    obtain ⟨record, hrecord, hlocate⟩ := changed_of_alone s t _ place hchanged
    rw [records_finished] at hrecord
    obtain ⟨w, hw, rfl⟩ := List.mem_map.mp hrecord
    exact ⟨w, hw, hlocate⟩

/-- In the garage the document of the tyre is changed, and it is that of a record. -/
theorem changed_among_records_garage :
    (generate (garageSettings false) (garage bareCar)).tree.content? ["Tyre.hbm.xml"] ≠
        (garage bareCar).content? ["Tyre.hbm.xml"] ∧
      ∃ w ∈ written (garageSettings false) (garage bareCar),
        (generate (garageSettings false) (garage bareCar)).tree.locate
          (w.record (garageSettings false)).documentPath = .ok ["Tyre.hbm.xml"] := by
  have hchanged : (generate (garageSettings false) (garage bareCar)).tree.content?
      ["Tyre.hbm.xml"] ≠ (garage bareCar).content? ["Tyre.hbm.xml"] := by decide +kernel
  exact ⟨hchanged, (changed_among_records _ _).2.2.1 _ hchanged⟩

end OrmMapping
