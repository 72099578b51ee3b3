import OrmMapping.TypeName

/-!
# Argument lists of type names

An argument list begins with a parenthesis that is closed on its line. All of them are dropped, and
what is left holds none, so that nothing is dropped from it or from any stretch of it.

* `NoArguments`, `NoArguments.of_isInfix`: texts without argument lists, and stretches of them;
* `noArguments_dropArguments`: what is left when argument lists are dropped;
* `dropArguments_of_noArguments`: nothing to drop;
* `dropArguments_append`, `dropArguments_list`: what stands before an argument list, and the list.
-/

namespace OrmMapping.TypeName

variable {c : Char} {cs ds : List Char}

/-- No parenthesis is closed on its line. -/
def NoArguments (cs : List Char) : Prop :=
  ∀ front back, cs = front ++ '(' :: back → closes back = false

@[simp] theorem dropArguments_nil (inside : Bool) : dropArguments inside [] = [] := by
  cases inside with
  | false => rfl
  | true => rfl

theorem dropArguments_inside (c : Char) (cs : List Char) :
    dropArguments true (c :: cs) = dropArguments (c != ')') cs :=
  rfl

theorem dropArguments_outside (c : Char) (cs : List Char) :
    dropArguments false (c :: cs) =
      if c == '(' && closes cs then dropArguments true cs else c :: dropArguments false cs :=
  rfl

/-- The first closing parenthesis or line end decides whether `closes` holds. -/
theorem closes_cons (c : Char) (cs : List Char) :
    closes (c :: cs) = if c = ')' then true else if c = '\n' then false else closes cs := by
  by_cases hclose : c = ')'
  · simp [closes, hclose]
  · by_cases hline : c = '\n'
    · simp [closes, hline]
    · simp [closes, hclose, hline]

/-- What is closed within `cs` is closed whatever follows. -/
theorem closes_append (h : closes cs = true) (back : List Char) : closes (cs ++ back) = true := by
  rw [closes, beq_iff_eq] at h ⊢
  rw [List.find?_append, h, Option.some_or]

/-- If `cs` has no argument lists, then no stretch `ds` of it has any. -/
theorem NoArguments.of_isInfix (h : NoArguments cs) (hpart : ds <:+: cs) : NoArguments ds := by
  obtain ⟨left, right, rfl⟩ := hpart
  rintro front back rfl
  have hopen := h (left ++ front) (back ++ right) (by simp)
  cases hback : closes back with
  | false => rfl
  | true =>
    rw [closes_append hback right] at hopen
    cases hopen

/-- A text without an opening parenthesis has no argument lists. -/
theorem noArguments_of_not_mem (h : '(' ∉ cs) : NoArguments cs := by
  rintro front back rfl
  exact absurd (List.mem_append_right _ List.mem_cons_self) h

/-- A character may be put in front, unless it opens what `cs` closes. -/
theorem noArguments_cons (hhead : c = '(' → closes cs = false) (h : NoArguments cs) :
    NoArguments (c :: cs) := by
  intro front back heq
  -- the parenthesis is the new character, or it stands in `cs`
  cases front with
  | nil =>
    obtain ⟨rfl, rfl⟩ := List.cons.inj heq
    exact hhead rfl
  | cons first front =>
    obtain ⟨-, rfl⟩ := List.cons.inj heq
    exact h front back rfl

/-! ## What is dropped -/

/-- If `cs` does not close a parenthesis before it, then neither does what is left of `cs`. -/
theorem closes_dropArguments (h : closes cs = false) :
    closes (dropArguments false cs) = false := by
  induction cs with
  | nil => rfl
  | cons c rest ih =>
    rw [closes_cons] at h
    by_cases hclose : c = ')'
    · rw [if_pos hclose] at h
      cases h
    · rw [if_neg hclose] at h
      by_cases hline : c = '\n'
      · simp [dropArguments_outside, hline, closes_cons]
      · rw [if_neg hline] at h
        simp [dropArguments_outside, h, closes_cons, hclose, hline, ih h]

/-- What is left after argument lists are dropped has none. -/
theorem noArguments_dropArguments (inside : Bool) (cs : List Char) :
    NoArguments (dropArguments inside cs) := by
  -- on the text; within a list nothing is kept, outside only an unclosed parenthesis needs care
  induction cs generalizing inside with
  | nil =>
    intro front back heq
    simp at heq
  | cons c rest ih =>
    cases inside with
    | true =>
      rw [dropArguments_inside]
      exact ih _
    | false =>
      rw [dropArguments_outside]
      split
      · exact ih true
      · next hkept =>
        refine noArguments_cons (fun hopen => closes_dropArguments ?_) (ih false)
        simpa [hopen] using hkept

/-- Of a text without argument lists, nothing is dropped. -/
theorem dropArguments_of_noArguments (h : NoArguments cs) : dropArguments false cs = cs := by
  induction cs with
  | nil => rfl
  | cons c rest ih =>
    have hrest : NoArguments rest := h.of_isInfix (List.suffix_cons c rest).isInfix
    -- no step drops anything, since a parenthesis here would be closed
    have hkept : ¬ (c == '(' && closes rest) = true := by
      rw [Bool.and_eq_true, beq_iff_eq]
      rintro ⟨rfl, hcloses⟩
      rw [h [] rest rfl] at hcloses
      cases hcloses
    rw [dropArguments_outside, if_neg hkept, ih hrest]

/-- Nothing is left that was not there. -/
theorem mem_of_mem_dropArguments {inside : Bool} (h : c ∈ dropArguments inside cs) : c ∈ cs := by
  induction cs generalizing inside with
  | nil => cases inside <;> cases h
  | cons first rest ih =>
    cases inside with
    | true => exact List.mem_cons_of_mem _ (ih h)
    | false =>
      rw [dropArguments_outside] at h
      split at h
      · exact List.mem_cons_of_mem _ (ih h)
      · rcases List.mem_cons.mp h with rfl | h
        · exact List.mem_cons_self
        · exact List.mem_cons_of_mem _ (ih h)

/-! ## One argument list -/

/-- A beginning without an opening parenthesis is left as it is. -/
theorem dropArguments_append (h : '(' ∉ cs) (ds : List Char) :
    dropArguments false (cs ++ ds) = cs ++ dropArguments false ds := by
  induction cs with
  | nil => rfl
  | cons c rest ih =>
    have hc : ¬ c = '(' := fun heq => h (heq ▸ List.mem_cons_self)
    have hrest : '(' ∉ rest := fun hmem => h (List.mem_cons_of_mem c hmem)
    simp [dropArguments_outside, hc, ih hrest]

/-- A closing parenthesis counts if no other one and no line end comes before it. -/
theorem closes_of_not_mem (hclose : ')' ∉ cs) (hline : '\n' ∉ cs) (ds : List Char) :
    closes (cs ++ ')' :: ds) = true := by
  induction cs with
  | nil => simp [closes]
  | cons c rest ih =>
    simp only [List.mem_cons, not_or, eq_comm (b := c)] at hclose hline
    rw [List.cons_append, closes_cons, if_neg hclose.1, if_neg hline.1, ih hclose.2 hline.2]

/-- Within an argument list, all is dropped up to the closing parenthesis. -/
theorem dropArguments_closed (hclose : ')' ∉ cs) (ds : List Char) :
    dropArguments true (cs ++ ')' :: ds) = dropArguments false ds := by
  induction cs with
  | nil => simp [dropArguments_inside]
  | cons c rest ih =>
    simp only [List.mem_cons, not_or, eq_comm (b := c)] at hclose
    rw [List.cons_append, dropArguments_inside, bne_iff_ne.mpr hclose.1, ih hclose.2]

/-- An argument list on one line goes as a whole. -/
theorem dropArguments_list (hclose : ')' ∉ cs) (hline : '\n' ∉ cs) (ds : List Char) :
    dropArguments false ('(' :: (cs ++ ')' :: ds)) = dropArguments false ds := by
  rw [dropArguments_outside, closes_of_not_mem hclose hline, beq_self_eq_true, Bool.and_self,
    if_pos rfl, dropArguments_closed hclose]

end OrmMapping.TypeName
