import HtmlTemplate.Proofs.Timeless

set_option autoImplicit false

namespace HtmlTemplate

def Event.isLookup : Event → Bool
  | .produced _ => false
  | .called _ _ => true
  | .missed _ _ => true

def lookups (events : List Event) : List Event :=
  events.filter Event.isLookup

namespace Run

variable {α β γ δ : Type}

def SameOutcome (related : α → β → Prop) : Except Error α → Except Error β → Prop
  | .ok a, .ok b => related a b
  | .error e, .error e' => e = e'
  | _, _ => False

-- The first computation, after a trace, has the outcome and the look-ups of the second one, whatever
-- has run before that.
def Alike (related : α → β → Prop) (past : Trace) (first : Run α) (second : Run β) : Prop :=
  ∀ other, ∃ added extra,
    (first.run.run past).2 = added ++ past ∧ (second.run.run other).2 = extra ++ other ∧
      lookups added = lookups extra ∧
      SameOutcome related (first.run.run past).1 (second.run.run other).1

theorem alike_pure (related : α → β → Prop) (past : Trace) (a : α) (b : β) (same : related a b) :
    Alike related past (pure a) (pure b) :=
  fun _ => ⟨[], [], rfl, rfl, rfl, same⟩

theorem alike_throw (related : α → β → Prop) (past : Trace) (e : Error) :
    Alike related past (throw e) (throw e) :=
  fun _ => ⟨[], [], rfl, rfl, rfl, rfl⟩

theorem alike_bind (related : α → β → Prop) (further : γ → δ → Prop) (past : Trace)
    (first : Run α) (second : Run β) (next : α → Run γ) (later : β → Run δ)
    (start : Alike related past first second)
    (rest : ∀ a b, (first.run.run past).1 = .ok a → related a b →
      Alike further (first.run.run past).2 (next a) (later b)) :
    Alike further past (first >>= next) (second >>= later) := by
  intro other
  obtain ⟨added, extra, ran, followed, same, outcome⟩ := start other
  rw [bind_on, bind_on]
  generalize first.run.run past = reached at ran outcome rest ⊢
  generalize second.run.run other = reached' at followed outcome ⊢
  obtain ⟨found, _⟩ := reached
  obtain ⟨found', _⟩ := reached'
  subst ran followed
  cases found with
  | error e =>
      cases found' with
      | ok b => cases outcome
      | error e' => exact ⟨added, extra, rfl, rfl, same, outcome⟩
  | ok a =>
      cases found' with
      | error e => cases outcome
      | ok b =>
          obtain ⟨more, beyond, continued, ended, both, final⟩ :=
            rest a b rfl outcome (extra ++ other)
          refine ⟨more ++ added, beyond ++ extra, ?_, ?_, ?_, final⟩
          · rw [continued, List.append_assoc]
          · rw [ended, List.append_assoc]
          · simp only [lookups, List.filter_append] at same both ⊢
            rw [same, both]

theorem alike_map (related : α → β → Prop) (further : γ → δ → Prop) (past : Trace) (f : α → γ)
    (g : β → δ) (first : Run α) (second : Run β) (start : Alike related past first second)
    (rest : ∀ a b, related a b → further (f a) (g b)) :
    Alike further past (f <$> first) (g <$> second) := by
  rw [map_eq_pure_bind, map_eq_pure_bind]
  exact alike_bind related further _ _ _ _ _ start fun a b _ same =>
    alike_pure further _ (f a) (g b) (rest a b same)

theorem same_outcome_eq (first second : Except Error α) (same : SameOutcome Eq first second) :
    first = second := by
  cases first with
  | ok a =>
      cases second with
      | ok b => exact congrArg Except.ok same
      | error e => cases same
  | error e =>
      cases second with
      | ok b => cases same
      | error e' => exact congrArg Except.error same

theorem alike_account (past : Trace) (first second : Run α) (alike : Alike Eq past first second)
    (other : Trace) :
    (first.account past).outcome = (second.account other).outcome ∧
      lookups (first.account past).events = lookups (second.account other).events := by
  obtain ⟨added, extra, ran, followed, same, outcome⟩ := alike other
  have events (run : Run α) (past added : Trace) (ran : (run.run.run past).2 = added ++ past) :
      (run.account past).events = added.reverse := by
    rw [account_on, ran]
    simp
  constructor
  · exact same_outcome_eq _ _ outcome
  · rw [events first past added ran, events second other extra followed]
    simp only [lookups, List.filter_reverse] at same ⊢
    rw [same]

end Run

theorem lookup_alike (registry : Registry) (timeless : registry.Timeless) (r : Reference)
    (past : Trace) :
    Run.Alike (fun node other => other = node ∧ registry.target r = .ok node) past
      (registry.lookup r.name r.params) (registry.lookup r.name r.params) := by
  intro other
  rw [lookup_timeless registry timeless, lookup_timeless registry timeless]
  refine ⟨[registry.lookupEvent r], [registry.lookupEvent r], rfl, rfl, rfl, ?_⟩
  cases registry.target r with
  | ok node => exact ⟨rfl, rfl⟩
  | error e => rfl

end HtmlTemplate
