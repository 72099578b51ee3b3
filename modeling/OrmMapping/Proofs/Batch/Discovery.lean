import OrmMapping.Batch.Run
import OrmMapping.Proofs.Roster.Lookup

/-!
# Discovery

Discovery reads each source once and registers the persistent classes. What it leaves is a roster
that stands for candidates read from the sources, in their order. A batch that stops at its first
error has a candidate for each persistent class; one that goes on may have left some out.

* `Candidate.ReadFrom`: what a candidate has to do with the file it comes from;
* `Roster.enter_eq_ok`: all that one source can do;
* `Roster.Collects`, `Represents.enterAll`: what discovery leaves.
-/

namespace OrmMapping

/-- Whether a source holds a persistent class. -/
def Source.isPersistentIn (t : FileTree) (source : Source) : Bool :=
  match Descriptor.load t source.path with
  | .ok d => d.isPersistent
  | .error _ => false

/-- A candidate is what the file of its source says. -/
structure Candidate.ReadFrom (s : Settings) (t : FileTree) (c : Candidate) : Prop where
  load : Descriptor.load t c.source.path = .ok c.descriptor
  persistent : c.descriptor.isPersistent = true
  entityName : c.descriptor.entityName = .ok c.entityName
  datasource : c.descriptor.datasource s.datasource = .ok c.datasource

variable {s : Settings} {t : FileTree} {source : Source} {d : Descriptor} {c : Candidate}

/-- For a source that can be loaded, its descriptor tells whether it holds a persistent class. -/
theorem Source.isPersistentIn_of_load (hload : Descriptor.load t source.path = .ok d) :
    source.isPersistentIn t = d.isPersistent := by
  simp only [Source.isPersistentIn, hload]

/-- The source of a candidate holds a persistent class. -/
theorem Candidate.ReadFrom.isPersistentIn (h : c.ReadFrom s t) :
    c.source.isPersistentIn t = true := by
  rw [Source.isPersistentIn_of_load h.load, h.persistent]

/-- A candidate has the source and the descriptor it was made of, and the name and the datasource
that the descriptor declares. -/
theorem Candidate.of_eq_ok (h : Candidate.of s source d = .ok c) :
    c.source = source ∧ c.descriptor = d ∧ d.entityName = .ok c.entityName ∧
      d.datasource s.datasource = .ok c.datasource := by
  simp only [Candidate.of, bind_eq_ok, pure_eq_ok] at h
  obtain ⟨entityName, hname, datasource, hdatasource, rfl⟩ := h
  exact ⟨rfl, rfl, hname, hdatasource⟩

namespace Roster

variable {r r' : Roster} {cs : List Candidate} {sources : List Source}

/-- Inversion of `Roster.enter`: a source that is no error is not persistent and changes nothing, or
a candidate that is read from it has been registered. -/
theorem enter_eq_ok (h : r.enter s t source = .ok r') :
    (source.isPersistentIn t = false ∧ r' = r) ∨
    ∃ c, c.ReadFrom s t ∧ c.source = source ∧ r.register c = .ok r' := by
  unfold enter at h
  split at h
  · cases h
  · next d hload =>
    cases hpersistent : d.isPersistent with
    | false =>
      rw [hpersistent] at h
      cases h
      exact Or.inl ⟨by rw [Source.isPersistentIn_of_load hload, hpersistent], rfl⟩
    | true =>
      rw [if_pos hpersistent] at h
      -- reading the name and the datasource can fail, and so can registration
      cases hof : Candidate.of s source d with
      | error e =>
        rw [hof] at h
        cases h
      | ok c =>
        obtain ⟨rfl, rfl, hname, hdatasource⟩ := Candidate.of_eq_ok hof
        cases hregister : r.register c with
        | error e =>
          simp only [hof, Except.bind, hregister] at h
          cases h
        | ok next =>
          simp only [hof, Except.bind, hregister] at h
          cases h
          exact Or.inr ⟨c, ⟨hload, hpersistent, hname, hdatasource⟩, rfl, hregister⟩

/-- Candidates collected from sources: each is read from its file, they are in the order of the
sources, and a batch that stops at its first error has left none out. -/
structure Collects (s : Settings) (t : FileTree) (sources : List Source) (cs : List Candidate) :
    Prop where
  read : ∀ c ∈ cs, c.ReadFrom s t
  order : (cs.map (·.source)).Sublist (sources.filter (·.isPersistentIn t))
  all : s.failFast = true → cs.map (·.source) = sources.filter (·.isPersistentIn t)

/-- No sources give no candidates. -/
theorem collects_nil : Collects s t [] [] :=
  ⟨by simp, List.Sublist.refl _, fun _ => rfl⟩

/-- A source that is not persistent adds nothing. -/
theorem Collects.skip (h : Collects s t sources cs) (hnot : source.isPersistentIn t = false) :
    Collects s t (source :: sources) cs := by
  have hsame : (source :: sources).filter (·.isPersistentIn t) =
      sources.filter (·.isPersistentIn t) := List.filter_cons_of_neg (by simp [hnot])
  exact ⟨h.read, hsame ▸ h.order, hsame ▸ h.all⟩

/-- A candidate that is read from the first source comes first. -/
theorem Collects.cons (h : Collects s t sources cs) (hc : c.ReadFrom s t) :
    Collects s t (c.source :: sources) (c :: cs) := by
  have hfirst : (c.source :: sources).filter (·.isPersistentIn t) =
      c.source :: sources.filter (·.isPersistentIn t) :=
    List.filter_cons_of_pos hc.isPersistentIn
  constructor
  · exact List.forall_mem_cons.mpr ⟨hc, h.read⟩
  · rw [hfirst]
    exact h.order.cons_cons c.source
  · intro hfast
    rw [hfirst, List.map_cons, h.all hfast]

/-- A batch that goes on may leave out a source that is an error. -/
theorem Collects.leaveOut (h : Collects s t sources cs) (hslow : ¬ s.failFast = true) :
    Collects s t (source :: sources) cs := by
  refine ⟨h.read, ?_, fun hfast => absurd hfast hslow⟩
  exact h.order.trans ((List.sublist_cons_self source sources).filter _)

/-- The run lemma: discovery that succeeds adds candidates `new`, collected from the sources, after
those that the roster stood for. -/
theorem Represents.enterAll (h : r.Represents cs)
    (hok : (Roster.enterAll s t r sources).outcome = .ok r') :
    ∃ new, r'.Represents (cs ++ new) ∧ Collects s t sources new := by
  -- the roster changes from source to source, and with it what it stands for
  induction sources generalizing r cs with
  | nil =>
    cases hok
    exact ⟨[], by simpa using h, collects_nil⟩
  | cons source rest ih =>
    unfold Roster.enterAll at hok
    split at hok
    · next next hstep =>
      -- the source is passed over, or registered after what was there
      rcases enter_eq_ok hstep with ⟨hnot, rfl⟩ | ⟨c, hread, rfl, hregister⟩
      · obtain ⟨new, hnew, hcollects⟩ := ih h hok
        exact ⟨new, hnew, hcollects.skip hnot⟩
      · obtain ⟨new, hnew, hcollects⟩ := ih (h.register hregister) hok
        refine ⟨c :: new, ?_, hcollects.cons hread⟩
        simpa using hnew
    · -- the source is an error, which only a batch that goes on survives
      split at hok
      · cases hok
      · next hslow =>
        obtain ⟨new, hnew, hcollects⟩ := ih h hok
        exact ⟨new, hnew, hcollects.leaveOut hslow⟩

end Roster

/-- Inversion of `discover`: the roster stands for candidates collected from the sources that were
found. -/
theorem discover_eq_ok {r : Roster} (h : (discover s t).outcome = .ok r) :
    ∃ sources, Source.discover t s.searchPaths s.suffixes = .ok sources ∧
      r.Represents r.candidates ∧ Roster.Collects s t sources r.candidates := by
  unfold discover at h
  split at h
  · cases h
  · next sources hsources =>
    obtain ⟨new, hnew, hcollects⟩ := Roster.represents_empty.enterAll h
    have hcandidates : r.candidates = new := hnew.candidates
    refine ⟨sources, hsources, ?_, ?_⟩
    · rw [hcandidates]
      exact hnew
    · rw [hcandidates]
      exact hcollects

end OrmMapping
