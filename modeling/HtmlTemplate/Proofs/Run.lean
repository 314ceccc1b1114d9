import HtmlTemplate.Value

set_option autoImplicit false

namespace HtmlTemplate.Run

variable {α β : Type}

theorem bind_on (first : Run α) (next : α → Run β) (past : Trace) :
    (first >>= next).run.run past =
      match first.run.run past with
      | (.ok a, later) => (next a).run.run later
      | (.error e, later) => (.error e, later) := by
  have opened : (first >>= next).run.run past =
      (ExceptT.bindCont next (first.run.run past).1).run (first.run.run past).2 := rfl
  rw [opened]
  rcases first.run.run past with ⟨outcome, later⟩
  cases outcome <;> rfl

theorem deferred_on (d : Deferred α) (past : Trace) :
    d.run.run.run past = (d.outcome past, .produced d.label :: past) := by
  have opened : d.run.run.run past = (do
      set (Event.produced d.label :: past)
      Run.ofExcept (d.outcome past) : Run α).run.run past := rfl
  rw [opened]
  cases d.outcome past <;> rfl

theorem bind_gives (first : Run α) (next : α → Run β) (past later : Trace) (b : β) :
    (first >>= next).run.run past = (.ok b, later) ↔
      ∃ a between, first.run.run past = (.ok a, between) ∧
        (next a).run.run between = (.ok b, later) := by
  rw [bind_on]
  rcases first.run.run past with ⟨outcome, between⟩
  cases outcome with
  | ok a =>
      constructor
      · intro ended
        exact ⟨a, between, rfl, ended⟩
      · rintro ⟨_, _, same, ended⟩
        cases same
        exact ended
  | error e =>
      constructor
      · intro ended
        cases ended
      · rintro ⟨_, _, same, _⟩
        cases same

theorem map_gives (f : α → β) (run : Run α) (past later : Trace) (b : β) :
    (f <$> run).run.run past = (.ok b, later) ↔
      ∃ a, run.run.run past = (.ok a, later) ∧ b = f a := by
  rw [map_eq_pure_bind, bind_gives]
  constructor
  · rintro ⟨a, between, ran, ended⟩
    cases ended
    exact ⟨a, ran, rfl⟩
  · rintro ⟨a, ran, rfl⟩
    exact ⟨a, later, ran, rfl⟩

theorem account_on (run : Run α) (past : Trace) :
    run.account past =
      ⟨(run.run.run past).1, (run.run.run past).2,
        ((run.run.run past).2.take ((run.run.run past).2.length - past.length)).reverse⟩ := rfl

theorem account_congr (run other : Run α) (past : Trace)
    (same : run.run.run past = other.run.run past) : run.account past = other.account past := by
  rw [account_on, same, ← account_on]

theorem pure_account (a : α) (past : Trace) :
    (pure a : Run α).account past = ⟨.ok a, past, []⟩ := by
  have ran : (pure a : Run α).run.run past = (.ok a, past) := rfl
  rw [account_on, ran]
  simp

theorem throw_account (e : Error) (past : Trace) :
    (throw e : Run α).account past = ⟨.error e, past, []⟩ := by
  have ran : (throw e : Run α).run.run past = (.error e, past) := rfl
  rw [account_on, ran]
  simp

-- The first computation does what the second one does, unless it ends with the given failure.
def Approximates (failure : Error) (first second : Run α) : Prop :=
  ∀ past, (first.run.run past).1 = .error failure ∨ second.run.run past = first.run.run past

theorem approximates_refl (failure : Error) (run : Run α) : Approximates failure run run :=
  fun _ => .inr rfl

theorem approximates_throw (failure : Error) (run : Run α) :
    Approximates failure (throw failure) run :=
  fun _ => .inl rfl

theorem approximates_bind (failure : Error) (first second : Run α) (next later : α → Run β)
    (start : Approximates failure first second)
    (rest : ∀ a, Approximates failure (next a) (later a)) :
    Approximates failure (first >>= next) (second >>= later) := by
  intro past
  rw [bind_on, bind_on]
  rcases start past with failed | same
  · rcases stopped : first.run.run past with ⟨outcome, after⟩
    rw [stopped] at failed
    cases failed
    exact .inl rfl
  · rw [same]
    rcases first.run.run past with ⟨outcome, after⟩
    cases outcome with
    | ok a => exact rest a after
    | error e => exact .inr rfl

theorem approximates_account (failure : Error) (first second : Run α)
    (close : Approximates failure first second) (past : Trace)
    (finished : (first.account past).outcome ≠ .error failure) :
    second.account past = first.account past := by
  rcases close past with failed | same
  · exact absurd failed finished
  · exact account_congr second first past same

end HtmlTemplate.Run
