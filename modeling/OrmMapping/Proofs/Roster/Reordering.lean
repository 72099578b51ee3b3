import Mathlib.Data.List.Find
import Mathlib.Data.List.Pairwise
import OrmMapping.Proofs.Roster.Resolution

/-!
# Candidates in another order

Where two candidates go by the same name, the one that was registered first has it. Among candidates
that share no name within a datasource there is nothing to decide, so whatever the order in which
they are registered, every reference means the same and every entity is resolved to the same result
or fails with the same error.

* `Candidate.Apart`: candidates that share no name within a datasource;
* `Roster.Represents.exists_foldlM_register`: when all registrations succeed;
* `earliest?_perm`, `Roster.Represents.lookup_perm`: one order and another;
* `Roster.resolve_congr`: lookups decide how an entity is resolved;
* `Roster.foldlM_register_perm`: whole registrations.
-/

namespace OrmMapping

variable {cs cs' : List Candidate} {a b c : Candidate} {wanted : ScopedName}

/-! ## Candidates that share no name -/

/-- Two candidates of one datasource go by different names. -/
def Candidate.Apart (a b : Candidate) : Prop :=
  a.datasource = b.datasource → ∀ name ∈ a.aliases, name ∉ b.aliases

instance : DecidableRel Candidate.Apart := fun a b =>
  inferInstanceAs (Decidable (a.datasource = b.datasource → ∀ name ∈ a.aliases, name ∉ b.aliases))

instance : Std.Symm Candidate.Apart where
  symm _ _ h hsame name hb ha := h hsame.symm name ha hb

/-- Of two candidates that are apart, not both go by one scoped name. -/
theorem Candidate.Apart.not_both (h : a.Apart b) (ha : a.goesBy wanted = true) :
    b.goesBy wanted = false := by
  rw [Candidate.goesBy, Bool.and_eq_true, beq_iff_eq, List.contains_iff_mem] at ha
  rw [Candidate.goesBy, Bool.and_eq_false_iff, beq_eq_false_iff_ne]
  by_cases hsame : b.datasource = wanted.1
  · refine Or.inr ?_
    have hnot := h (ha.1.trans hsame.symm) wanted.2 ha.2
    simpa using hnot
  · exact Or.inl hsame

/-- Among candidates that are apart (`hapart`), at most one goes by a name. -/
theorem eq_of_goesBy (hapart : cs.Pairwise Candidate.Apart) (ha : a ∈ cs) (hb : b ∈ cs)
    (hgoes : a.goesBy wanted = true) (hgoes' : b.goesBy wanted = true) : a = b := by
  -- two different ones would be apart
  by_contra hne
  have hdistinct := hapart.forall ha hb hne
  rw [hdistinct.not_both hgoes] at hgoes'
  cases hgoes'

/-- The order does not matter to what is earliest, since at most one candidate goes by a name. -/
theorem earliest?_perm (hapart : cs.Pairwise Candidate.Apart) (hperm : cs.Perm cs')
    (wanted : ScopedName) : earliest? cs wanted = earliest? cs' wanted := by
  refine List.find?_eq_find?_of_perm hperm ?_
  rintro a ⟨ha, hgoes⟩ b ⟨hb, hgoes'⟩
  exact eq_of_goesBy hapart ha hb hgoes hgoes'

/-- A candidate that goes by a name is the earliest to do so: no other one does. -/
theorem earliest?_of_apart (hapart : cs.Pairwise Candidate.Apart) (hc : c ∈ cs)
    (hgoes : c.goesBy wanted = true) : earliest? cs wanted = some c := by
  cases hfirst : earliest? cs wanted with
  | none =>
    rw [earliest?_eq_none_iff.mp hfirst c hc] at hgoes
    cases hgoes
  | some a =>
    rw [eq_of_goesBy hapart (mem_of_earliest? hfirst) hc (goesBy_of_earliest? hfirst) hgoes]

namespace Roster

variable {r r' : Roster}

/-! ## Registrations that all succeed -/

/-- A candidate whose entity name is new to the roster (`hnew`) is taken on. -/
theorem Represents.exists_register (h : r.Represents cs) (hnew : ∀ x ∈ cs, x.key ≠ c.key) :
    ∃ next, r.register c = .ok next := by
  cases hstep : r.register c with
  | ok next => exact ⟨next, rfl⟩
  | error e =>
    obtain ⟨x, hx, hkey, -⟩ := (h.register_eq_error_iff e).mp hstep
    exact absurd hkey (hnew x hx)

/-- Candidates are all taken on when their entity names differ, from one another and from those of
the roster (`hkeys`). -/
theorem Represents.exists_foldlM_register (h : r.Represents cs) (calls : List Candidate)
    (hkeys : (cs ++ calls).Pairwise fun a b => a.key ≠ b.key) :
    ∃ r', calls.foldlM Roster.register r = .ok r' ∧ r'.Represents (cs ++ calls) := by
  induction calls generalizing r cs with
  | nil => exact ⟨r, rfl, by rwa [List.append_nil]⟩
  | cons c rest ih =>
    have hnew : ∀ x ∈ cs, x.key ≠ c.key := fun x hx =>
      (List.pairwise_append.mp hkeys).2.2 x hx c List.mem_cons_self
    obtain ⟨next, hnext⟩ := h.exists_register hnew
    -- the rest comes after a roster that has `c` as well
    rw [List.append_cons] at hkeys ⊢
    obtain ⟨r', hrest, hr'⟩ := ih (h.register hnext) hkeys
    refine ⟨r', ?_, hr'⟩
    rw [List.foldlM_cons, hnext]
    exact hrest

/-! ## Lookups -/

/-- Rosters with the same candidates in different orders give the same lookups. -/
theorem Represents.lookup_perm (h : r.Represents cs) (h' : r'.Represents cs')
    (hapart : cs.Pairwise Candidate.Apart) (hperm : cs.Perm cs') (reference : String)
    (datasource : Option String) :
    r.lookup reference datasource = r'.lookup reference datasource := by
  rw [h.lookup_eq, h'.lookup_eq, earliest?_perm hapart hperm, earliest?_perm hapart hperm]

/-- An entity that has a name (`hname`) is found by each name that it goes by. -/
theorem Represents.lookup_of_apart (h : r.Represents cs) (hapart : cs.Pairwise Candidate.Apart)
    (hc : c ∈ cs) (hname : c.entityName ≠ "") {reference : String}
    (hgoes : Text.lower (Text.trim reference) ∈ c.aliases) :
    r.lookup reference c.datasource = some c.entityName := by
  have hwhole : c.goesBy (c.datasource, Text.lower (Text.trim reference)) = true := by
    simp [Candidate.goesBy, hgoes]
  rw [h.lookup_eq, earliest?_of_apart hapart hc hwhole, Option.map_some, nonEmpty?_some,
    if_neg hname, Option.some_or]

/-- Two rosters with the same lookups resolve entities alike, errors included. -/
theorem resolve_congr
    (h : ∀ reference datasource, r.lookup reference datasource = r'.lookup reference datasource)
    (e : MappedEntity) : r.resolve e = r'.resolve e := by
  -- resolution asks the roster for nothing but lookups
  have hplacement : ∀ p, r.resolvePlacement e p = r'.resolvePlacement e p := by
    intro p
    rw [resolvePlacement, resolvePlacement, h]
  have hproperty : ∀ p, r.resolveProperty e p = r'.resolveProperty e p := by
    intro p
    simp only [resolveProperty, h]
  have hproperties : ∀ ps, r.resolveProperties e ps = r'.resolveProperties e ps := by
    intro ps
    induction ps with
    | nil => rfl
    | cons p rest ih => simp only [resolveProperties, hproperty, ih]
  simp only [resolve_eq, hplacement, hproperties]

/-- Candidates with different entity names that share no name within a datasource are registered in
any order, and the order leaves no trace: references mean the same, and entities are resolved to the
same result or fail with the same error. Each name of an entity leads to it. -/
theorem foldlM_register_perm (hperm : cs.Perm cs')
    (hkeys : cs.Pairwise fun a b => Text.lower a.entityName ≠ Text.lower b.entityName)
    (hapart : cs.Pairwise Candidate.Apart) :
    ∃ r r', cs.foldlM Roster.register {} = .ok r ∧ cs'.foldlM Roster.register {} = .ok r' ∧
      (∀ reference datasource,
        r.lookup reference datasource = r'.lookup reference datasource) ∧
      (∀ e, r.resolve e = r'.resolve e) ∧
      ∀ c ∈ cs, c.entityName ≠ "" → ∀ reference,
        Text.lower (Text.trim reference) ∈ c.aliases →
          r.lookup reference c.datasource = some c.entityName := by
  have hkeys' : cs'.Pairwise fun a b => a.key ≠ b.key :=
    hkeys.perm hperm fun hne => hne.symm
  -- both orders start from the empty roster and refuse nothing
  obtain ⟨r, hrun, hr⟩ := represents_empty.exists_foldlM_register cs hkeys
  obtain ⟨r', hrun', hr'⟩ := represents_empty.exists_foldlM_register cs' hkeys'
  rw [List.nil_append] at hr hr'
  have hlookup := hr.lookup_perm hr' hapart hperm
  refine ⟨r, r', hrun, hrun', hlookup, resolve_congr hlookup, ?_⟩
  intro c hc hname reference hgoes
  exact hr.lookup_of_apart hapart hc hname hgoes

/-- A class that goes by one name four times. -/
def fleetCar : Candidate where
  source := ⟨"Car", { parts := ["Car.json"] }, {}⟩
  descriptor := ⟨{ name := "Car" }, []⟩
  entityName := "Car"

/-- A class of the same name in another datasource. -/
def companyCar : Candidate where
  source := ⟨"hr.Car", { parts := ["hr", "Car.json"] }, {}⟩
  descriptor := ⟨{ name := "Car" }, []⟩
  entityName := "CompanyCar"
  datasource := some "hr"

/-- A class with four names. -/
def fleetDriver : Candidate where
  source := ⟨"staff.Chauffeur", { parts := ["staff", "Chauffeur.json"] }, {}⟩
  descriptor := ⟨{ name := "Driver" }, []⟩
  entityName := "Employee"

/-- Two of the three classes are called `Car`, in different datasources; in either order each
reference means the same. -/
theorem foldlM_register_perm_fleet :
    [fleetCar, companyCar, fleetDriver].Perm [fleetDriver, fleetCar, companyCar] ∧
    ([fleetCar, companyCar, fleetDriver].Pairwise fun a b =>
      Text.lower a.entityName ≠ Text.lower b.entityName) ∧
    [fleetCar, companyCar, fleetDriver].Pairwise Candidate.Apart ∧
    ∃ r r', [fleetCar, companyCar, fleetDriver].foldlM Roster.register {} = .ok r ∧
      [fleetDriver, fleetCar, companyCar].foldlM Roster.register {} = .ok r' ∧
      r.lookup " CAR " none = some "Car" ∧ r'.lookup " CAR " none = some "Car" ∧
      r.lookup "Car" (some "hr") = some "CompanyCar" ∧
      r'.lookup "Chauffeur" none = some "Employee" := by
  have hperm : [fleetCar, companyCar, fleetDriver].Perm [fleetDriver, fleetCar, companyCar] := by
    decide
  have hkeys : [fleetCar, companyCar, fleetDriver].Pairwise fun a b =>
      Text.lower a.entityName ≠ Text.lower b.entityName := by
    decide
  have hapart : [fleetCar, companyCar, fleetDriver].Pairwise Candidate.Apart := by decide
  obtain ⟨r, r', hr, hr', hlookup, -, hnames⟩ := foldlM_register_perm hperm hkeys hapart
  have hcar : r.lookup " CAR " none = some "Car" :=
    hnames fleetCar (by decide) (by decide) " CAR " (by decide)
  have hcompany : r.lookup "Car" (some "hr") = some "CompanyCar" :=
    hnames companyCar (by decide) (by decide) "Car" (by decide)
  have hdriver : r.lookup "Chauffeur" none = some "Employee" :=
    hnames fleetDriver (by decide) (by decide) "Chauffeur" (by decide)
  refine ⟨hperm, hkeys, hapart, r, r', hr, hr', hcar, ?_, hcompany, ?_⟩
  · rw [← hlookup, hcar]
  · rw [← hlookup, hdriver]

end Roster

end OrmMapping
