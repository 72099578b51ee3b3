import OrmMapping.Proofs.Batch.Changes

/-!
# Batches that are left early

A batch that gave some records and is closed has done the first part of a run to the end: the same
records, the same documents and the first part of the log. All its sources were gone through, but
no candidate after that of the last record, whatever it is.

* `Begins`: what has happened when the documents of some renderings were written;
* `alone_pulled`: a batch that gave some records.
-/

namespace OrmMapping

variable {s : Settings} {t : FileTree} {r : Roster} {taken back : List Candidate}
  {first rest : List Rendering}

/-- What has happened when a batch gave as many records as there are renderings.

* Discovery is over: it found the roster, whose candidates are those taken and those left.
* The last candidate that was taken is that of the last rendering.
* The steps gave the records of the renderings, and the log has what was logged on the candidates
  that were taken, whichever candidates come after them.
* The documents of the renderings were written one after the other, and no other file holds anything
  else than before.
* The log is the first part of that of a run to the end.
* Once the batch is closed, nothing more comes of it. -/
structure Begins (s : Settings) (t : FileTree) (r : Roster) (taken back : List Candidate)
    (first : List Rendering) : Prop where
  discovers : (discover s t).outcome = .ok r
  candidates : r.candidates = taken ++ back
  last : taken.getLast? = first.getLast?.map (·.candidate)
  steps : alone s t first.length =
    (amongst s r back ((discover s t).log ++ taken.flatMap (logged s r))
      (first.map fun w => .ok (some (w.record s))), Rendering.writeAll s t first)
  stepsBefore : ∀ others,
    Progress.next^[first.length] (amongst s r (taken ++ others) (discover s t).log [], t) =
      (amongst s r others ((discover s t).log ++ taken.flatMap (logged s r))
        (first.map fun w => .ok (some (w.record s))), Rendering.writeAll s t first)
  lands : Lands s t first
  changed : ∀ place, (Rendering.writeAll s t first).content? place ≠ t.content? place →
    ∃ w ∈ first, (Rendering.writeAll s t first).locate (w.record s).documentPath = .ok place
  logs : (discover s t).log ++ taken.flatMap (logged s r) <+: (generate s t).log
  closed : ∀ u, (alone s t first.length).1.batch.close.next u =
    ⟨[], u, .ok none, ⟨s, .finished⟩⟩

/-- Renderings that can be written in turn (`h`) can be written up to any of them. -/
theorem Lands.of_append (h : Lands s t (first ++ rest)) : Lands s t first := by
  induction first generalizing t with
  | nil => exact .nil t
  | cons w others ih =>
    cases h with
    | cons free hothers => exact .cons free (ih hothers)

/-- When a batch wrote `first` before all else (`hwritten`), it has begun with these as `Begins`
says. `hfirst` is needed because a batch from which nothing was pulled has not yet discovered its
candidates. -/
theorem begins_of_written (hwritten : written s t = first ++ rest) (hfirst : first ≠ []) :
    ∃ r taken back, Begins s t r taken back first := by
  have hpos : 0 < first.length := List.length_pos_iff.mpr hfirst
  cases hdiscover : (discover s t).outcome with
  | error e =>
    -- nothing is written without a roster
    simp only [written, hdiscover] at hwritten
    exact absurd (List.append_eq_nil_iff.mp hwritten.symm).1 hfirst
  | ok r =>
    have hlands : Lands s t (first ++ rest) := hwritten ▸ lands_written s t
    have hby : writtenBy s r t r.candidates = first ++ rest := by
      rw [← hwritten, written, hdiscover]
    obtain ⟨taken, back, hcandidates, hpulls, -⟩ := exists_pulls hby
    have hsteps := hpulls.steps (discover s t).log []
    have halone : alone s t first.length =
        (amongst s r back ((discover s t).log ++ taken.flatMap (logged s r))
          (first.map fun w => .ok (some (w.record s))), Rendering.writeAll s t first) := by
      rw [alone_running hdiscover hpos, hcandidates, hsteps, List.nil_append]
    refine ⟨r, taken, back, hdiscover, hcandidates, hpulls.last, halone, ?_, hlands.of_append, ?_,
      ?_, ?_⟩
    · intro others
      rw [hsteps, List.nil_append]
    · -- a file that changed is that of a record among the steps
      intro place hchanged
      have htree := congrArg Prod.snd halone
      have hrecords : (alone s t first.length).1.records = first.map (·.record s) := by
        rw [halone]
        exact filterMap_recordOf? s first
      dsimp only at htree
      rw [← htree] at hchanged ⊢
      obtain ⟨record, hrecord, hlocate⟩ := changed_of_alone s t _ place hchanged
      rw [hrecords] at hrecord
      obtain ⟨w, hw, rfl⟩ := List.mem_map.mp hrecord
      exact ⟨w, hw, hlocate⟩
    · -- the log of a run to the end goes on after that of the steps
      rw [generate, hdiscover]
      simp only [hcandidates, hpulls.runAll, ← List.append_assoc]
      exact List.prefix_append _ _
    · intro u
      rw [halone]
      rfl

/-- Pulling some records of a batch, up to as many as a run to the end gives, gives the first
records of that run, writes its first documents, changes no other file and takes no candidate after
that of the last record. -/
theorem alone_pulled (s : Settings) (t : FileTree) (k : Nat) (hk : 0 < k)
    (hle : k ≤ (written s t).length) :
    (∃ first rest r taken back, written s t = first ++ rest ∧ first.length = k ∧
      Begins s t r taken back first) ∧
    Performs s t (written s t) (generate s t) ∧
    alone s t ((written s t).length + 1) =
      ({ batch := ⟨s, .finished⟩, log := (generate s t).log,
         outcomes := (written s t).map (fun w => .ok (some (w.record s))) ++
           [(generate s t).outcome.map fun _ => none] }, (generate s t).tree) := by
  have hlength : ((written s t).take k).length = k := List.length_take_of_le hle
  have hfirst : (written s t).take k ≠ [] := by
    intro hnil
    rw [hnil] at hlength
    exact absurd hlength (Nat.ne_of_lt hk)
  have hsplit : written s t = (written s t).take k ++ (written s t).drop k :=
    (List.take_append_drop k _).symm
  obtain ⟨r, taken, back, hbegins⟩ := begins_of_written hsplit hfirst
  exact ⟨⟨_, _, r, taken, back, hsplit, hlength, hbegins⟩, generate_performs s t,
    alone_finished s t⟩

/-- The first of the two records of the garage. -/
theorem alone_pulled_garage :
    0 < 1 ∧ 1 ≤ (written (garageSettings true) (garage numberedCar)).length ∧
      ∃ first r taken back,
        first.map (·.record (garageSettings true)) = [garageRecord "Car"] ∧
          Begins (garageSettings true) (garage numberedCar) r taken back first := by
  have hrecords : (written (garageSettings true) (garage numberedCar)).map
      (·.record (garageSettings true)) = [garageRecord "Car", garageRecord "Tyre"] :=
    map_record_written generate_numberedCar.1
  have hle : 1 ≤ (written (garageSettings true) (garage numberedCar)).length := by
    have hlength := congrArg List.length hrecords
    rw [List.length_map] at hlength
    rw [hlength]
    decide
  obtain ⟨⟨first, rest, r, taken, back, hwritten, hlength, hbegins⟩, -⟩ :=
    alone_pulled _ _ 1 Nat.one_pos hle
  obtain ⟨w, rfl⟩ := List.length_eq_one_iff.mp hlength
  rw [hwritten] at hrecords
  exact ⟨Nat.one_pos, hle, [w], r, taken, back, congrArg ([·]) (List.cons.inj hrecords).1, hbegins⟩

end OrmMapping
