import OrmMapping.Batch.Roster

/-!
# Registration

A roster keeps three lists: its candidates, what each name means, and which entity names are taken.
They always say the same about one list of candidates, those that were taken on so far.

* `Roster.Represents`: a roster and the candidates that it stands for;
* `Represents.register`, `Represents.register_eq_error_iff`: what one registration does, and when
  it fails;
* `Represents.registerAll`: what any sequence of registrations leaves, failed ones included.
-/

namespace OrmMapping

/-- The entity name as it is compared with others. -/
def Candidate.key (c : Candidate) : String :=
  Text.lower c.entityName

/-- Whether a candidate is bound to the datasource of a scoped name and goes by that name. -/
def Candidate.goesBy (c : Candidate) (wanted : ScopedName) : Bool :=
  c.datasource == wanted.1 && c.aliases.contains wanted.2

/-- The earliest of some candidates that goes by a name. -/
def earliest? (cs : List Candidate) (wanted : ScopedName) : Option Candidate :=
  cs.find? (·.goesBy wanted)

/-- A candidate goes by its own entity name in its datasource. -/
theorem Candidate.goesBy_key (c : Candidate) : c.goesBy (c.datasource, c.key) = true := by
  simp [Candidate.goesBy, Candidate.aliases, Candidate.key]

/-- The earliest that goes by a name is one of the candidates. -/
theorem mem_of_earliest? {cs : List Candidate} {wanted : ScopedName} {c : Candidate}
    (h : earliest? cs wanted = some c) : c ∈ cs :=
  List.mem_of_find?_eq_some h

/-- The earliest that goes by a name goes by it. -/
theorem goesBy_of_earliest? {cs : List Candidate} {wanted : ScopedName} {c : Candidate}
    (h : earliest? cs wanted = some c) : c.goesBy wanted = true := by
  have hfound := List.find?_some h
  exact hfound

/-- There is no earliest when no candidate goes by the name. -/
theorem earliest?_eq_none_iff {cs : List Candidate} {wanted : ScopedName} :
    earliest? cs wanted = none ↔ ∀ c ∈ cs, c.goesBy wanted = false := by
  simp [earliest?]

/-- What stands before takes precedence over what stands after. -/
theorem earliest?_append (before after : List Candidate) (wanted : ScopedName) :
    earliest? (before ++ after) wanted = (earliest? before wanted).or (earliest? after wanted) :=
  List.find?_append

namespace Roster

/-- A roster stands for a list of candidates: a name means the earliest of them that goes by it, an
entity name is taken by the one that has it, and no two of them have the same. -/
structure Represents (r : Roster) (cs : List Candidate) : Prop where
  candidates : r.candidates = cs
  names : ∀ name, r.names.lookup name = (earliest? cs name).map (·.entityName)
  taken : ∀ key, r.taken.lookup key = (cs.find? (·.key == key)).map (·.source.path)
  distinct : cs.Pairwise fun a b => a.key ≠ b.key

/-- A new roster stands for no candidates. -/
theorem represents_empty : ({} : Roster).Represents [] :=
  ⟨rfl, fun _ => rfl, fun _ => rfl, List.Pairwise.nil⟩

/-! ## Names -/

/-- A name that is added means `entity` unless it means something already; all other names mean what
they did. -/
theorem lookup_addName (names : List (ScopedName × String)) (name : ScopedName) (entity : String)
    (other : ScopedName) :
    (addName names name entity).lookup other =
      (names.lookup other).or (if name == other then some entity else none) := by
  unfold addName
  by_cases hname : (names.lookup name).isSome
  · rw [if_pos hname]
    by_cases heq : name = other
    · -- the name has a meaning already, which stays
      subst heq
      rw [Option.or_of_isSome hname]
    · simp [heq]
  · rw [if_neg hname, List.lookup_append]
    by_cases heq : name = other
    · -- the new pair stands last, and none before it has its name
      subst heq
      simp
    · have hne : (other == name) = false := beq_eq_false_iff_ne.mpr (Ne.symm heq)
      simp [List.lookup_cons, hne, heq]

/-- Adding several names under one datasource gives each of them the meaning `entity` where it has
none. -/
theorem lookup_foldl_addName (datasource : Option String) (entity : String)
    (aliases : List String) (names : List (ScopedName × String)) (wanted : ScopedName) :
    (aliases.foldl (fun acc name => addName acc (datasource, name) entity) names).lookup wanted =
      (names.lookup wanted).or
        (if datasource == wanted.1 && aliases.contains wanted.2 then some entity else none) := by
  induction aliases generalizing names with
  | nil => simp
  | cons name rest ih =>
    obtain ⟨ds, n⟩ := wanted
    rw [List.foldl_cons, ih, lookup_addName, Option.or_assoc]
    congr 1
    -- the first name, or one of the rest, or neither
    by_cases hds : datasource = ds
    · by_cases hn : n = name
      · simp [hds, hn]
      · have hn' : ¬ name = n := fun h => hn h.symm
        simp [hds, hn, hn']
    · simp [hds]

/-- Registration gives a name the meaning of the candidate only where it has none. -/
theorem lookup_addNames (names : List (ScopedName × String)) (c : Candidate)
    (wanted : ScopedName) :
    (addNames names c).lookup wanted =
      (names.lookup wanted).or (if c.goesBy wanted then some c.entityName else none) :=
  lookup_foldl_addName c.datasource c.entityName c.aliases names wanted

/-! ## One registration -/

/-- A registration is refused for a taken entity name, or adds the candidate, its names and its key
at the end of the three lists. -/
theorem register_cases (r : Roster) (c : Candidate) :
    (∃ first, r.taken.lookup c.key = some first ∧
      r.register c = .error (.duplicateEntity c.entityName first.text c.source.path.text)) ∨
    (r.taken.lookup c.key = none ∧
      r.register c = .ok ⟨r.candidates ++ [c], addNames r.names c,
        r.taken ++ [(c.key, c.source.path)]⟩) := by
  cases htaken : r.taken.lookup c.key with
  | some first =>
    refine Or.inl ⟨first, rfl, ?_⟩
    rw [Candidate.key] at htaken
    simp only [register, htaken]
  | none =>
    refine Or.inr ⟨rfl, ?_⟩
    rw [Candidate.key] at htaken
    simp only [register, htaken, Candidate.key]

variable {r r' : Roster} {cs : List Candidate} {c : Candidate}

/-- The candidate with a key is the only one, by `Represents.distinct`. -/
theorem Represents.find?_key (h : r.Represents cs) (x : Candidate) (key : String) :
    cs.find? (·.key == key) = some x ↔ x ∈ cs ∧ x.key = key := by
  constructor
  · intro hfind
    exact ⟨List.mem_of_find?_eq_some hfind, by simpa using List.find?_some hfind⟩
  · rintro ⟨hx, rfl⟩
    obtain ⟨before, after, rfl⟩ := List.append_of_mem hx
    have hbefore : ∀ y ∈ before, ¬ (y.key == x.key) = true := by
      intro y hy
      have hne := (List.pairwise_append.mp h.distinct).2.2 y hy x List.mem_cons_self
      simpa using hne
    rw [List.find?_append, List.find?_eq_none.mpr hbefore]
    simp

/-- A candidate is refused exactly for one that has its entity name, whatever the case and the
datasources, and the error names both sources. -/
theorem Represents.register_eq_error_iff (h : r.Represents cs) (e : MappingError) :
    r.register c = .error e ↔ ∃ x ∈ cs, x.key = c.key ∧
      e = .duplicateEntity c.entityName x.source.path.text c.source.path.text := by
  have htaken := h.taken c.key
  rcases register_cases r c with ⟨first, hfirst, herror⟩ | ⟨hfree, hok⟩
  · rw [herror]
    rw [hfirst] at htaken
    -- the path that is taken is that of the candidate with the key
    obtain ⟨x, hx, rfl⟩ := Option.map_eq_some_iff.mp htaken.symm
    obtain ⟨hmem, hkey⟩ := (h.find?_key x c.key).mp hx
    constructor
    · intro he
      exact ⟨x, hmem, hkey, by cases he; rfl⟩
    · rintro ⟨y, hy, hykey, rfl⟩
      have hyfind := (h.find?_key y c.key).mpr ⟨hy, hykey⟩
      rw [hx] at hyfind
      cases hyfind
      rfl
  · rw [hok]
    constructor
    · intro he
      cases he
    · rintro ⟨y, hy, hykey, -⟩
      rw [hfree, (h.find?_key y c.key).mpr ⟨hy, hykey⟩] at htaken
      cases htaken

/-- Registering a candidate preserves `Represents`: the candidate comes after all others and takes
no name from them. -/
theorem Represents.register (h : r.Represents cs) (hok : r.register c = .ok r') :
    r'.Represents (cs ++ [c]) := by
  rcases register_cases r c with ⟨first, -, herror⟩ | ⟨hfree, hnext⟩
  · rw [herror] at hok
    cases hok
  · rw [hnext] at hok
    cases hok
    have hfind : cs.find? (·.key == c.key) = none := by
      rw [h.taken] at hfree
      exact Option.map_eq_none_iff.mp hfree
    constructor
    · exact congrArg (· ++ [c]) h.candidates
    · -- a name means what it meant before, and the new candidate only where it meant nothing
      intro wanted
      rw [lookup_addNames, h.names]
      cases hc : c.goesBy wanted <;> cases hcs : cs.find? (·.goesBy wanted) <;>
        simp [earliest?, List.find?_append, hc, hcs]
    · -- the key is free for all others, and taken by the new candidate
      intro key
      rw [List.lookup_append, h.taken, List.find?_append, Option.map_or]
      by_cases hkey : key = c.key
      · simp [hkey]
      · have hkey' : ¬ c.key = key := fun heq => hkey heq.symm
        simp [List.lookup_cons, beq_eq_false_iff_ne.mpr hkey, hkey']
    · -- the entity name was free
      rw [List.pairwise_append]
      refine ⟨h.distinct, List.pairwise_singleton _ _, ?_⟩
      intro x hx y hy
      rw [List.mem_singleton] at hy
      subst hy
      simpa using List.find?_eq_none.mp hfind x hx

/-! ## Sequences of registrations -/

/-- The roster after one more registration; one that fails leaves it as it is. -/
def registerOrKeep (r : Roster) (c : Candidate) : Roster :=
  match r.register c with
  | .ok next => next
  | .error _ => r

/-- The roster after registrations in turn. -/
def registerAll (r : Roster) (calls : List Candidate) : Roster :=
  calls.foldl registerOrKeep r

/-- The candidates whose registrations succeed, in order. -/
def accepted (r : Roster) : List Candidate → List Candidate
  | [] => []
  | c :: rest =>
    match r.register c with
    | .ok next => c :: accepted next rest
    | .error _ => accepted r rest

/-- Registrations are made one after the other. -/
theorem registerAll_append (r : Roster) (before after : List Candidate) :
    r.registerAll (before ++ after) = (r.registerAll before).registerAll after :=
  List.foldl_append

/-- A refused candidate leaves no trace: what comes after it finds the same roster. -/
theorem registerAll_refused {e : MappingError} {before : List Candidate}
    (herror : (r.registerAll before).register c = .error e) (after : List Candidate) :
    r.registerAll (before ++ c :: after) = r.registerAll (before ++ after) := by
  have hkeep : (r.registerAll before).registerOrKeep c = r.registerAll before := by
    rw [registerOrKeep, herror]
  calc r.registerAll (before ++ c :: after)
      = ((r.registerAll before).registerOrKeep c).registerAll after := by
        rw [registerAll_append]
        rfl
    _ = r.registerAll (before ++ after) := by rw [hkeep, registerAll_append]

/-- After any registrations a roster stands for its candidates and those that were accepted. By
induction over the registrations, with `Represents.register` for each that succeeds. -/
theorem Represents.registerAll (h : r.Represents cs) (calls : List Candidate) :
    (r.registerAll calls).Represents (cs ++ r.accepted calls) := by
  induction calls generalizing r cs with
  | nil => simpa [Roster.registerAll, accepted] using h
  | cons c rest ih =>
    change ((r.registerOrKeep c).registerAll rest).Represents _
    cases hstep : r.register c with
    | ok next => simpa [registerOrKeep, accepted, hstep] using ih (h.register hstep)
    | error e => simpa [registerOrKeep, accepted, hstep] using ih h

/-- When all registrations succeed (`hok`), the roster stands for all candidates. -/
theorem Represents.foldlM_register (h : r.Represents cs) {calls : List Candidate}
    (hok : calls.foldlM Roster.register r = .ok r') : r'.Represents (cs ++ calls) := by
  induction calls generalizing r cs with
  | nil =>
    cases hok
    simpa using h
  | cons c rest ih =>
    rw [List.foldlM_cons] at hok
    cases hstep : r.register c with
    | ok next =>
      rw [hstep] at hok
      simpa using ih (h.register hstep) hok
    | error e =>
      rw [hstep] at hok
      cases hok

end Roster

end OrmMapping
