import OrmMapping.Proofs.Roster.Registration

/-!
# What references mean

A reference is looked up as a whole and then by its last segment, and each time it means the
earliest candidate of the datasource that goes by it. An entity name has no precedence over the
other names, so a class that was registered earlier can take a reference away from the entity that
has it for its entity name.

* `registerAll_spec`: any sequence of registrations, and all lookups after it;
* `lookup_entityName_iff`: when an entity is found by its own entity name.
-/

namespace OrmMapping

namespace Roster

variable {r : Roster} {cs : List Candidate}

/-- `nonEmpty?` drops the empty text, which is how a lookup treats a nameless entity. -/
theorem nonEmpty?_some (name : String) :
    nonEmpty? (some name) = if name = "" then none else some name := by
  by_cases h : name = ""
  · simp [nonEmpty?, h]
  · simp [nonEmpty?, h]

/-- A lookup in terms of the candidates: the entity name of the earliest that goes by the whole
reference, unless it is empty, and otherwise that of the earliest that goes by the last segment. -/
theorem Represents.lookup_eq (h : r.Represents cs) (reference : String)
    (datasource : Option String) :
    r.lookup reference datasource =
      (nonEmpty? ((earliest? cs (datasource, Text.lower (Text.trim reference))).map
        (·.entityName))).or
      ((earliest? cs
        (datasource, Text.lastSegment (Text.lower (Text.trim reference)))).map (·.entityName)) := by
  rw [Roster.lookup, h.names, h.names]

/-- Without nameless entities (`named`), the second stage is for references that mean nothing as a
whole. -/
theorem Represents.lookup_of_named (h : r.Represents cs) (named : ∀ c ∈ cs, c.entityName ≠ "")
    (reference : String) (datasource : Option String) :
    r.lookup reference datasource =
      ((earliest? cs (datasource, Text.lower (Text.trim reference))).or
        (earliest? cs
          (datasource, Text.lastSegment (Text.lower (Text.trim reference))))).map
        (·.entityName) := by
  rw [h.lookup_eq]
  cases hfirst : earliest? cs (datasource, Text.lower (Text.trim reference)) with
  | none => rfl
  | some c =>
    have hname : c.entityName ≠ "" := named c (mem_of_earliest? hfirst)
    simp [nonEmpty?_some, hname]

/-- A name that is found is that of a candidate in `datasource`, whichever stage found it. -/
theorem Represents.exists_of_lookup (h : r.Represents cs) {reference name : String}
    {datasource : Option String} (hfound : r.lookup reference datasource = some name) :
    ∃ c ∈ cs, c.datasource = datasource ∧ c.entityName = name := by
  have hstage : ∀ written, (earliest? cs (datasource, written)).map (·.entityName) = some name →
      ∃ c ∈ cs, c.datasource = datasource ∧ c.entityName = name := by
    intro written hmap
    obtain ⟨c, hc, hname⟩ := Option.map_eq_some_iff.mp hmap
    have hgoes := goesBy_of_earliest? hc
    simp only [Candidate.goesBy, Bool.and_eq_true, beq_iff_eq] at hgoes
    exact ⟨c, mem_of_earliest? hc, hgoes.1, hname⟩
  rw [h.lookup_eq, Option.or_eq_some_iff] at hfound
  rcases hfound with hwhole | ⟨-, hlast⟩
  · obtain ⟨hwhole, -⟩ := Option.filter_eq_some_iff.mp hwhole
    exact hstage _ hwhole
  · exact hstage _ hlast

/-- Registrations that succeed are among those that are made. -/
theorem mem_of_mem_accepted {r : Roster} {calls : List Candidate} {c : Candidate}
    (hc : c ∈ r.accepted calls) : c ∈ calls := by
  induction calls generalizing r with
  | nil => exact hc
  | cons first rest ih =>
    unfold accepted at hc
    split at hc
    · rcases List.mem_cons.mp hc with rfl | hc
      · exact List.mem_cons_self
      · exact List.mem_cons_of_mem _ (ih hc)
    · exact List.mem_cons_of_mem _ (ih hc)

/-- Any sequence of registrations of entities that have names. One is refused exactly when an
accepted candidate before it has the same entity name, whatever the case and the datasource, and is
then as good as not made. What a reference means afterwards is decided by the accepted candidates
alone. -/
theorem registerAll_spec (calls : List Candidate) (named : ∀ c ∈ calls, c.entityName ≠ "") :
    (∀ before c after, calls = before ++ c :: after →
      (∀ e, (({} : Roster).registerAll before).register c = .error e ↔
        ∃ x ∈ accepted {} before, Text.lower x.entityName = Text.lower c.entityName ∧
          e = .duplicateEntity c.entityName x.source.path.text c.source.path.text) ∧
      ((∃ x ∈ accepted {} before, Text.lower x.entityName = Text.lower c.entityName) →
        ({} : Roster).registerAll calls = ({} : Roster).registerAll (before ++ after))) ∧
    (({} : Roster).registerAll calls).candidates = accepted {} calls ∧
    ∀ reference datasource,
      (({} : Roster).registerAll calls).lookup reference datasource =
        ((earliest? (accepted {} calls)
            (datasource, Text.lower (Text.trim reference))).or
          (earliest? (accepted {} calls)
            (datasource, Text.lastSegment (Text.lower (Text.trim reference))))).map
          (·.entityName) := by
  have hrun : ∀ made, (({} : Roster).registerAll made).Represents (accepted {} made) :=
    fun made => represents_empty.registerAll made
  refine ⟨?_, (hrun calls).candidates, ?_⟩
  · rintro before c after rfl
    have hrefused := (hrun before).register_eq_error_iff (c := c)
    refine ⟨hrefused, ?_⟩
    rintro ⟨x, hx, hkey⟩
    exact registerAll_refused ((hrefused _).mpr ⟨x, hx, hkey, rfl⟩) after
  · -- accepted candidates have names, so an empty one hides nothing from the second stage
    have hnamed : ∀ c ∈ accepted {} calls, c.entityName ≠ "" :=
      fun c hc => named c (mem_of_mem_accepted hc)
    exact (hrun calls).lookup_of_named hnamed

/-- A class `Person` that is mapped as `Owner`. -/
def owner : Candidate where
  source := ⟨"a.Person", { parts := ["src", "a", "Person.json"] }, { parts := ["src"] }⟩
  descriptor := ⟨{ name := "Person" }, []⟩
  entityName := "Owner"

/-- A class `Human` that is mapped as `Person`. -/
def person : Candidate where
  source := ⟨"b.Human", { parts := ["src", "b", "Human.json"] }, { parts := ["src"] }⟩
  descriptor := ⟨{ name := "Human" }, []⟩
  entityName := "Person"

/-- A class of another datasource with the same entity name in other letters. -/
def rival : Candidate where
  source := ⟨"c.Staff", { parts := ["src", "c", "Staff.json"] }, { parts := ["src"] }⟩
  descriptor := ⟨{ name := "Staff" }, []⟩
  entityName := "PERSON"
  datasource := some "hr"

/-- `rival` is refused for `person`, although it belongs to another datasource, and afterwards the
reference to `fleet.Person` means `owner`, whose class has that name. -/
theorem registerAll_spec_rival :
    (∀ c ∈ [owner, person, rival], c.entityName ≠ "") ∧
    (({} : Roster).registerAll [owner, person]).register rival =
      .error (.duplicateEntity "PERSON" "src/b/Human.json" "src/c/Staff.json") ∧
    ({} : Roster).registerAll [owner, person, rival] =
      ({} : Roster).registerAll [owner, person] ∧
    (({} : Roster).registerAll [owner, person, rival]).lookup " fleet.Person" none =
      some "Owner" := by
  have named : ∀ c ∈ [owner, person, rival], c.entityName ≠ "" := by decide
  have hspec := registerAll_spec [owner, person, rival] named
  obtain ⟨hrefused, hkept⟩ := hspec.1 [owner, person] rival [] rfl
  refine ⟨named, ?_, ?_, ?_⟩
  · exact (hrefused _).mpr ⟨person, by decide, by decide, rfl⟩
  · exact hkept ⟨person, by decide, by decide⟩
  · rw [hspec.2.2]
    decide

/-! ## Entity names as references -/

/-- Two candidates of a roster with one entity name are the same, since their keys are equal too. -/
theorem Represents.eq_of_entityName (h : r.Represents cs) {x y : Candidate} (hx : x ∈ cs)
    (hy : y ∈ cs) (hname : x.entityName = y.entityName) : x = y := by
  have hkey : x.key = y.key := congrArg Text.lower hname
  have hxfind := (h.find?_key x y.key).mpr ⟨hx, hkey⟩
  have hyfind := (h.find?_key y y.key).mpr ⟨hy, rfl⟩
  rw [hxfind] at hyfind
  exact Option.some.inj hyfind

/-- A candidate is the earliest that goes by a name when it does and none before it does. `h` keeps
it from standing among those before it. -/
theorem Represents.earliest?_eq_some_iff {before after : List Candidate} {c : Candidate}
    (h : r.Represents (before ++ c :: after)) {wanted : ScopedName} :
    earliest? (before ++ c :: after) wanted = some c ↔
      c.goesBy wanted = true ∧ ∀ x ∈ before, x.goesBy wanted = false := by
  rw [earliest?_append]
  cases hbefore : earliest? before wanted with
  | none =>
    rw [Option.none_or]
    constructor
    · intro hc
      exact ⟨goesBy_of_earliest? hc, earliest?_eq_none_iff.mp hbefore⟩
    · rintro ⟨hgoes, -⟩
      exact List.find?_cons_of_pos hgoes
  | some x =>
    have hx : x ∈ before := mem_of_earliest? hbefore
    have hgoes : x.goesBy wanted = true := goesBy_of_earliest? hbefore
    constructor
    · intro hc
      -- a candidate before `c` would be `c`, and have its entity name
      cases hc
      exact absurd rfl ((List.pairwise_append.mp h.distinct).2.2 c hx c List.mem_cons_self)
    · rintro ⟨-, hnone⟩
      rw [hnone x hx] at hgoes
      cases hgoes

variable {before after : List Candidate} {c x : Candidate}

/-- Looking up an entity by its own name: the first stage finds the entity or an earlier candidate,
since the entity goes by its name. `htrim` is needed because a lookup trims the reference but not
the names. -/
theorem Represents.lookup_entityName (h : r.Represents (before ++ c :: after))
    (htrim : Text.trim c.entityName = c.entityName) :
    r.lookup c.entityName c.datasource =
      (nonEmpty? (some
        ((earliest? before (c.datasource, Text.lower c.entityName)).getD c).entityName)).or
      ((earliest? (before ++ c :: after)
        (c.datasource, Text.lastSegment (Text.lower c.entityName))).map (·.entityName)) := by
  have hself : earliest? (c :: after) (c.datasource, Text.lower c.entityName) = some c :=
    List.find?_cons_of_pos (Candidate.goesBy_key c)
  have hwhole : earliest? (before ++ c :: after) (c.datasource, Text.lower c.entityName) =
      some ((earliest? before (c.datasource, Text.lower c.entityName)).getD c) := by
    rw [earliest?_append, hself]
    cases earliest? before (c.datasource, Text.lower c.entityName) <;> rfl
  rw [h.lookup_eq, htrim, hwhole, Option.map_some]

/-- Where no candidate before it goes by its name (`hfree`), an entity is found by this name. -/
theorem Represents.lookup_of_free (h : r.Represents (before ++ c :: after))
    (hname : c.entityName ≠ "") (htrim : Text.trim c.entityName = c.entityName)
    (hfree : ∀ x ∈ before, x.goesBy (c.datasource, Text.lower c.entityName) = false) :
    r.lookup c.entityName c.datasource = some c.entityName := by
  rw [h.lookup_entityName htrim, earliest?_eq_none_iff.mpr hfree, Option.getD_none,
    nonEmpty?_some, if_neg hname, Option.some_or]

/-- An earlier candidate that goes by the name of an entity is found in its place, as long as it has
an entity name itself (`hname`). -/
theorem Represents.lookup_of_captured (h : r.Represents (before ++ c :: after))
    (htrim : Text.trim c.entityName = c.entityName)
    (hx : earliest? before (c.datasource, Text.lower c.entityName) = some x)
    (hname : x.entityName ≠ "") :
    r.lookup c.entityName c.datasource = some x.entityName := by
  rw [h.lookup_entityName htrim, hx, Option.getD_some, nonEmpty?_some, if_neg hname,
    Option.some_or]

/-- An earlier candidate without an entity name (`hempty`) leaves the reference to the second stage,
which finds the entity when it is the earliest to go by the last segment. -/
theorem Represents.lookup_of_nameless (h : r.Represents (before ++ c :: after))
    (htrim : Text.trim c.entityName = c.entityName)
    (hx : earliest? before (c.datasource, Text.lower c.entityName) = some x)
    (hempty : x.entityName = "") :
    r.lookup c.entityName c.datasource = some c.entityName ↔
      c.goesBy (c.datasource, Text.lastSegment (Text.lower c.entityName)) = true ∧
      ∀ y ∈ before,
        y.goesBy (c.datasource, Text.lastSegment (Text.lower c.entityName)) = false := by
  have hmem : c ∈ before ++ c :: after := List.mem_append_right _ List.mem_cons_self
  rw [h.lookup_entityName htrim, hx, Option.getD_some, nonEmpty?_some, if_pos hempty,
    Option.none_or, ← h.earliest?_eq_some_iff, Option.map_eq_some_iff]
  constructor
  · rintro ⟨y, hy, hyname⟩
    -- entity names differ, so what has the name of `c` is `c`
    have hyc : y = c := h.eq_of_entityName (mem_of_earliest? hy) hmem hyname
    exact hyc ▸ hy
  · intro hlast
    exact ⟨c, hlast, rfl⟩

/-- When registrations all succeed, an entity is found by its own entity name exactly when no
candidate registered before it in its datasource goes by that name. There is one way around an
earlier one: it has the empty entity name, and the last segment leads to the entity itself. In all
other cases the earlier candidate is found. -/
theorem lookup_entityName_iff (before after : List Candidate) (c : Candidate) (r : Roster)
    (hrun : (before ++ c :: after).foldlM Roster.register {} = .ok r)
    (hname : c.entityName ≠ "") (htrim : Text.trim c.entityName = c.entityName) :
    (r.lookup c.entityName c.datasource = some c.entityName ↔
      (∀ x ∈ before, x.goesBy (c.datasource, Text.lower c.entityName) = false) ∨
      (∃ x, earliest? before (c.datasource, Text.lower c.entityName) = some x ∧
        x.entityName = "") ∧
      c.goesBy (c.datasource, Text.lastSegment (Text.lower c.entityName)) = true ∧
      ∀ x ∈ before,
        x.goesBy (c.datasource, Text.lastSegment (Text.lower c.entityName)) = false) ∧
    ∀ x, earliest? before (c.datasource, Text.lower c.entityName) = some x →
      x.entityName ≠ "" → r.lookup c.entityName c.datasource = some x.entityName := by
  have h : r.Represents (before ++ c :: after) := represents_empty.foldlM_register hrun
  cases hbefore : earliest? before (c.datasource, Text.lower c.entityName) with
  | none =>
    have hfree := earliest?_eq_none_iff.mp hbefore
    refine ⟨⟨fun _ => Or.inl hfree, fun _ => h.lookup_of_free hname htrim hfree⟩, ?_⟩
    intro x hx
    cases hx
  | some x =>
    have hx : x ∈ before := mem_of_earliest? hbefore
    have hgoes := goesBy_of_earliest? hbefore
    have hcaptured : ¬ ∀ y ∈ before,
        y.goesBy (c.datasource, Text.lower c.entityName) = false := by
      intro hfree
      rw [hfree x hx] at hgoes
      cases hgoes
    by_cases hempty : x.entityName = ""
    · -- the earlier candidate has no name to give
      have hsecond := h.lookup_of_nameless htrim hbefore hempty
      refine ⟨⟨fun hfound => Or.inr ⟨⟨x, rfl, hempty⟩, hsecond.mp hfound⟩, ?_⟩, ?_⟩
      · rintro (hfree | ⟨-, hlast⟩)
        · exact absurd hfree hcaptured
        · exact hsecond.mpr hlast
      · intro y hy hyname
        cases hy
        exact absurd hempty hyname
    · -- the earlier candidate takes the reference
      have hlookup := h.lookup_of_captured htrim hbefore hempty
      refine ⟨⟨?_, ?_⟩, ?_⟩
      · intro hfound
        -- the candidate that is found has another entity name
        have heq : x.entityName = c.entityName := Option.some.inj (hlookup.symm.trans hfound)
        have hne := (List.pairwise_append.mp h.distinct).2.2 x hx c List.mem_cons_self
        exact absurd (congrArg Text.lower heq) hne
      · rintro (hfree | ⟨⟨y, hy, hyname⟩, -⟩)
        · exact absurd hfree hcaptured
        · cases hy
          exact absurd hyname hempty
      · intro y hy _
        cases hy
        exact hlookup

/-- Registered before `owner`, the entity `Person` is found by its name. -/
theorem lookup_entityName_iff_person :
    ∃ r, ([] ++ person :: [owner]).foldlM Roster.register {} = .ok r ∧
      person.entityName ≠ "" ∧ Text.trim person.entityName = person.entityName ∧
      r.lookup "Person" none = some "Person" := by
  have hname : person.entityName ≠ "" := by decide
  have htrim : Text.trim person.entityName = person.entityName := by decide
  refine ⟨({} : Roster).registerAll [person, owner], rfl, hname, htrim, ?_⟩
  exact (lookup_entityName_iff [] [owner] person _ rfl hname htrim).1.mpr (Or.inl (by simp))

/-- Registered after `owner`, the entity `Person` is not found by its name, which then means the
class `Person`. -/
theorem entityName_not_preferred :
    ¬ ∀ (calls : List Candidate) (r : Roster), calls.foldlM Roster.register {} = .ok r →
      ∀ c ∈ calls, c.entityName ≠ "" → Text.trim c.entityName = c.entityName →
        r.lookup c.entityName c.datasource = some c.entityName := by
  intro h
  have hfound := h [owner, person] (({} : Roster).registerAll [owner, person]) rfl person
    (by decide) (by decide) (by decide)
  revert hfound
  decide

end Roster

end OrmMapping
