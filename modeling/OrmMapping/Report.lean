import OrmMapping.Fault

/-!
# Reports

Reading a descriptor gives a result or an error, and in either case the warnings met on the way.

* `Report`: warnings in order, and the outcome;
* `Report.warn`: one more warning;
* the monad: steps run in order until one fails, and their warnings add up.
-/

namespace OrmMapping

/-- The outcome of some work with the warnings that it gave, which stay when the work fails. -/
structure Report (α : Type) where
  notices : List Notice
  outcome : Except MappingError α
deriving Repr

namespace Report

variable {α β : Type}

/-- Runs `next` on the result, if there is one, and adds its warnings. -/
def andThen (first : Report α) (next : α → Report β) : Report β :=
  match first.outcome with
  | .ok a => ⟨first.notices ++ (next a).notices, (next a).outcome⟩
  | .error e => ⟨first.notices, .error e⟩

/-- An outcome without warnings. -/
def ofExcept (outcome : Except MappingError α) : Report α :=
  ⟨[], outcome⟩

instance : Monad Report where
  pure a := ⟨[], .ok a⟩
  bind := andThen

instance : MonadLift (Except MappingError) Report where
  monadLift := ofExcept

/-- Fails with an error. -/
def fail (e : MappingError) : Report α :=
  ⟨[], .error e⟩

/-- Gives a warning. -/
def warn (notice : Notice) : Report Unit :=
  ⟨[notice], .ok ()⟩

@[simp] theorem pure_def (a : α) : (pure a : Report α) = ⟨[], .ok a⟩ := rfl

@[simp] theorem bind_def (x : Report α) (f : α → Report β) : (x >>= f) = x.andThen f := rfl

theorem andThen_ok (ns : List Notice) (a : α) (f : α → Report β) :
    andThen ⟨ns, .ok a⟩ f = ⟨ns ++ (f a).notices, (f a).outcome⟩ := rfl

/-- Steps may be grouped either way: their warnings add up in the same order. -/
theorem andThen_assoc {γ : Type} (x : Report α) (f : α → Report β) (g : β → Report γ) :
    (x.andThen f).andThen g = x.andThen fun a => (f a).andThen g := by
  obtain ⟨ns, _ | a⟩ := x
  · rfl
  · rw [andThen_ok, andThen_ok]
    obtain ⟨ms, _ | b⟩ := f a
    · rfl
    · simp [andThen_ok]

instance : LawfulMonad Report :=
  LawfulMonad.mk' Report
    (fun x => by obtain ⟨ns, _ | a⟩ := x <;> simp [Functor.map, andThen])
    (fun _ _ => rfl)
    andThen_assoc

/-! ## Success -/

@[simp] theorem liftM_def (outcome : Except MappingError α) :
    (liftM outcome : Report α) = ofExcept outcome := rfl

/-- Changing a result and lifting it may be done in either order. -/
theorem liftM_map (f : α → β) (x : Except MappingError α) :
    (liftM (f <$> x) : Report β) = f <$> (liftM x : Report α) := by
  cases x <;> rfl

@[simp] theorem outcome_ofExcept (outcome : Except MappingError α) :
    (ofExcept outcome).outcome = outcome := rfl

/-- Outcomes follow one another as the steps do; warnings do not matter. -/
theorem outcome_andThen (x : Report α) (f : α → Report β) :
    (x.andThen f).outcome = (x.outcome >>= fun a => (f a).outcome) := by
  obtain ⟨ns, _ | a⟩ := x
  · rfl
  · rfl

/-- A sequence of steps succeeds when each step does with the result of the one before. -/
theorem outcome_andThen_eq_ok {x : Report α} {f : α → Report β} {b : β} :
    (x.andThen f).outcome = .ok b ↔ ∃ a, x.outcome = .ok a ∧ (f a).outcome = .ok b := by
  obtain ⟨ns, _ | a⟩ := x
  · simp [andThen]
  · simp [andThen]

/-- On a report with the result `a`, two functions give the same reports exactly when they agree on
`a`. -/
theorem map_eq_map_iff {x : Report α} {a : α} {f g : α → β} (h : x.outcome = .ok a) :
    f <$> x = g <$> x ↔ f a = g a := by
  obtain ⟨notices, outcome⟩ := x
  cases h
  simp [Functor.map, andThen]

end Report

/-- Two steps that can fail give `b` exactly when the first gives a result on which the second gives
`b`. -/
theorem bind_eq_ok {ε α β : Type} {x : Except ε α} {f : α → Except ε β} {b : β} :
    (x >>= f) = .ok b ↔ ∃ a, x = .ok a ∧ f a = .ok b := by
  cases x <;> simp [bind, Except.bind]

/-- Two steps that can fail do so with the error of the first, or, when it gives a result, with that
of the second on it. -/
theorem bind_eq_error {ε α β : Type} {x : Except ε α} {f : α → Except ε β} {e : ε} :
    (x >>= f) = .error e ↔ x = .error e ∨ ∃ a, x = .ok a ∧ f a = .error e := by
  cases x <;> simp [bind, Except.bind]

theorem pure_eq_ok {ε α : Type} {a b : α} : (pure a : Except ε α) = .ok b ↔ a = b := by
  simp [pure, Except.pure]

/-- Changing the result of a step succeeds exactly when the step does. -/
theorem map_eq_ok {ε α β : Type} {x : Except ε α} {f : α → β} {b : β} :
    x.map f = .ok b ↔ ∃ a, x = .ok a ∧ f a = b := by
  cases x <;> simp [Except.map]

/-- Changing the result of a step leaves its errors as they are. -/
theorem map_eq_error {ε α β : Type} {x : Except ε α} {f : α → β} {e : ε} :
    x.map f = .error e ↔ x = .error e := by
  cases x <;> simp [Except.map]

/-- What `toOption` gives is the result, so that a closed run can be evaluated without comparing
errors. -/
theorem eq_ok_of_toOption {ε α : Type} {x : Except ε α} {a : α} (h : x.toOption = some a) :
    x = .ok a := by
  cases x with
  | error e => cases h
  | ok b => exact congrArg Except.ok (Option.some.inj h)

/-- Changing the error of a step leaves its results as they are. -/
theorem mapError_eq_error {ε ε' α : Type} {x : Except ε α} {f : ε → ε'} {e : ε'} :
    x.mapError f = .error e ↔ ∃ e', x = .error e' ∧ f e' = e := by
  cases x with
  | ok a =>
    have hmap : (Except.ok a : Except ε α).mapError f = .ok a := rfl
    simp [hmap]
  | error fault =>
    have hmap : (Except.error fault : Except ε α).mapError f = .error (f fault) := rfl
    simp [hmap]

end OrmMapping
