import HtmlTemplate.Error

/-!
Field values that are given directly or produced on demand, and the evaluation that produces them.
Evaluation keeps a trace of what has run, so that order and number of runs can be spoken about and
a template can depend on what came before it.
-/

set_option autoImplicit false

namespace HtmlTemplate

inductive Event where
  /-- A deferred value was produced, or failed. -/
  | produced (label : Option String)
  | called (name : String) (params : Json)
  /-- A template was looked up that is not registered. -/
  | missed (name : String) (params : Json)

/-- What has run, the latest first. -/
abbrev Trace := List Event

/-- A computation that may fail and adds to the trace, also when it fails. -/
abbrev Run := ExceptT Error (StateM Trace)

/-- The events of a run on top of a trace, in order, and its outcome. -/
structure Account (α : Type) where
  outcome : Except Error α
  trace : Trace
  events : List Event

def Run.ofExcept {α : Type} : Except Error α → Run α
  | .ok a => pure a
  | .error e => throw e

def Run.account {α : Type} (run : Run α) (trace : Trace) : Account α :=
  let (outcome, later) := (ExceptT.run run).run trace
  ⟨outcome, later, (later.take (later.length - trace.length)).reverse⟩

/-- A value that is produced when it is needed; it may depend on what has run before. -/
structure Deferred (α : Type) where
  label : Option String
  outcome : Trace → Except Error α

namespace Deferred

variable {α β : Type}

def fixed (label : Option String) (outcome : Except Error α) : Deferred α :=
  ⟨label, fun _ => outcome⟩

def run (d : Deferred α) : Run α := do
  let past ← get
  set (Event.produced d.label :: past)
  Run.ofExcept (d.outcome past)

def map (f : α → β) (d : Deferred α) : Deferred β :=
  ⟨d.label, fun past => (d.outcome past).map f⟩

end Deferred

inductive Value (α : Type) where
  | literal (a : α)
  | deferred (d : Deferred α)

namespace Value

variable {α : Type}

def force : Value α → Run α
  | .literal a => pure a
  | .deferred d => d.run

def literal? : Value α → Option α
  | .literal a => some a
  | .deferred _ => none

/-- How a value is shown to a programmer; a deferred one stays closed. -/
def display (showLiteral : α → String) : Value α → String
  | .literal a => "Literal(" ++ showLiteral a ++ ")"
  | .deferred _ => "Deferred(..)"

end Value

end HtmlTemplate
