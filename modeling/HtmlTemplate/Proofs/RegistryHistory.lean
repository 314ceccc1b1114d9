import HtmlTemplate.Proofs.CallOrder
import HtmlTemplate.Proofs.DistinctNames
import HtmlTemplate.Proofs.InsertionOrder
import HtmlTemplate.Proofs.TextOrder

/-!
A registry after any sequence of steps: for each name it holds the template that was registered
first, and every answer is made from these. A step that registers a name again leaves no trace.
-/

set_option autoImplicit false

namespace HtmlTemplate

namespace Registry

inductive Step where
  | register (name : String) (template : Template)
  | lookup (name : String) (params : Json)
  | contains (name : String)
  | size
  | isEmpty
  | names
  | render (node : Node) (limit : Nat)
  | renderTo (node : Node) (limit : Nat)
  | resolve (node : Node) (limit : Nat)

inductive Answer where
  | flag (b : Bool)
  | count (n : Nat)
  | names (names : List String)
  | node (account : Account Node)
  | text (account : Account String)
  | written (text : String) (outcome : Except Error Unit)
  | resolved (account : Account Resolved)

structure Session where
  registry : Registry
  past : Trace

namespace Session

def perform {α : Type} (session : Session) (run : Run α) (answer : Account α → Answer) :
    Session × Answer :=
  let account := run.account session.past
  ({ session with past := account.trace }, answer account)

def step (session : Session) : Step → Session × Answer
  | .register name template =>
    let (registry, added) := session.registry.register name template
    ({ session with registry }, .flag added)
  | .lookup name params => session.perform (session.registry.lookup name params) .node
  | .contains name => (session, .flag (session.registry.contains name))
  | .size => (session, .count session.registry.size)
  | .isEmpty => (session, .flag session.registry.isEmpty)
  | .names => (session, .names session.registry.names)
  | .render node limit => session.perform (node.render session.registry limit) .text
  | .renderTo node limit =>
    session.perform (node.render session.registry limit) fun account =>
      .written account.written (account.outcome.map fun _ => ())
  | .resolve node limit => session.perform (node.resolve session.registry limit) .resolved

def run : Session → List Step → Session × List Answer
  | session, [] => (session, [])
  | session, step :: rest =>
    let (next, answer) := session.step step
    let (last, answers) := next.run rest
    (last, answer :: answers)

end Session

def after (steps : List Step) : Session :=
  (Session.run ⟨empty, []⟩ steps).1

def answersTo (steps : List Step) : List Answer :=
  (Session.run ⟨empty, []⟩ steps).2

def Step.registers? : Step → Option (String × Template)
  | .register name template => some (name, template)
  | _ => none

-- All that was to be registered, whether it was added or not.
def registrations (steps : List Step) : List (String × Template) :=
  steps.filterMap Step.registers?

def callFirst (registered : List (String × Template)) (name : String) (params : Json) :
    Run Node := do
  let past ← get
  match registered.lookup name with
  | some template =>
    set (Event.called name params :: past)
    Run.ofExcept (template past params)
  | none =>
    set (Event.missed name params :: past)
    return .empty

end Registry

/-! Rendering with any way of calling templates -/

section Calling

variable (call : String → Json → Run Node) (limit : Nat)

def Node.resolveWithinBy : (left : Nat) → Node → Run Resolved
  | _, .text s => pure (.text s)
  | _, .element e => .element <$> e.resolve
  | 0, .reference _ => throw (.tooDeep limit)
  | left + 1, .reference r => do
    let node ← call r.name r.params
    resolveWithinBy left node

def Node.resolveBy (node : Node) : Run Resolved :=
  node.resolveWithinBy call limit limit

def Render.nodeBy : (room : Nat) → Node → Run String
  | 0, _ => throw (.tooDeep limit)
  | room + 1, node => do
    match ← node.resolveBy call limit with
    | .text s => pure s
    | .element e => Render.element (nodeBy room) e

def Node.renderBy (node : Node) : Run String :=
  Render.nodeBy call limit (limit + 1) node

end Calling

section Calling

variable (registry : Registry) (limit : Nat)

theorem resolve_within_by (left : Nat) (node : Node) :
    node.resolveWithin registry limit left = node.resolveWithinBy registry.lookup limit left := by
  induction left generalizing node with
  | zero => cases node <;> rfl
  | succ left ih =>
      cases node with
      | text s => rfl
      | element e => rfl
      | reference r =>
          rw [Node.resolveWithin, Node.resolveWithinBy]
          simp only [ih]

theorem resolve_by (node : Node) :
    node.resolve registry limit = node.resolveBy registry.lookup limit :=
  resolve_within_by registry limit limit node

theorem render_node_by (room : Nat) :
    Render.node registry limit room = Render.nodeBy registry.lookup limit room := by
  induction room with
  | zero => rfl
  | succ room ih =>
      funext node
      rw [Render.nodeBy, ← resolve_by, ← ih]
      rfl

theorem render_by (node : Node) :
    node.render registry limit = node.renderBy registry.lookup limit :=
  congrFun (render_node_by registry limit (limit + 1)) node

end Calling

namespace Registry

open Entries (keys get?)

theorem run_append (session : Session) (steps others : List Step) :
    session.run (steps ++ others) =
      let (between, answered) := session.run steps
      let (last, further) := between.run others
      (last, answered ++ further) := by
  induction steps generalizing session with
  | nil => rfl
  | cons step rest ih =>
      rw [List.cons_append, Session.run, Session.run]
      simp only [ih, List.cons_append]

theorem answers_append (before later : List Step) :
    answersTo (before ++ later) = answersTo before ++ ((after before).run later).2 :=
  congrArg Prod.snd (run_append ⟨empty, []⟩ before later)

theorem after_step (before : List Step) (step : Step) :
    after (before ++ [step]) = ((after before).step step).1 :=
  congrArg Prod.fst (run_append ⟨empty, []⟩ before [step])

theorem answers_step (before later : List Step) (step : Step) :
    answersTo (before ++ step :: later) = answersTo before ++
      ((after before).step step).2 :: ((after (before ++ [step])).run later).2 := by
  rw [answers_append, after_step]
  rfl

theorem step_registry (session : Session) (step : Step) :
    (session.step step).1.registry =
      match step.registers? with
      | some (name, template) => (session.registry.register name template).1
      | none => session.registry := by
  cases step <;> rfl

theorem register_taken (registry : Registry) (name : String) (template : Template)
    (taken : registry.contains name) : registry.register name template = (registry, false) := by
  rw [register, if_pos taken]

theorem register_added (registry : Registry) (name : String) (template : Template) :
    (registry.register name template).2 = !registry.contains name := by
  unfold register
  cases registry.contains name <;> rfl

theorem register_get (registry : Registry) (name : String) (template : Template) (asked : String) :
    get? (registry.register name template).1.templates asked =
      (get? registry.templates asked).or ([(name, template)].lookup asked) := by
  by_cases taken : registry.contains name = true
  · rw [register_taken registry name template taken]
    by_cases same : asked = name
    · obtain ⟨held, found⟩ := Option.isSome_iff_exists.mp taken
      rw [same, found, Option.some_or]
    · simp [List.lookup_cons, beq_false_of_ne same]
  · have fresh : get? registry.templates name = none := by
      simpa [contains, Entries.has] using taken
    rw [register, if_neg taken, Entries.get?_set]
    by_cases same : asked = name
    · simp [same, fresh]
    · simp [List.lookup_cons, beq_false_of_ne same, Ne.symm same]

theorem registrations_step (steps : List Step) (step : Step) :
    registrations (steps ++ [step]) = registrations steps ++ step.registers?.toList := by
  cases registered : step.registers? <;> simp [registrations, registered]

theorem holds_first (steps : List Step) (name : String) :
    get? (after steps).registry.templates name = (registrations steps).lookup name := by
  induction steps using List.reverseRecOn with
  | nil => rfl
  | append_singleton steps step ih =>
      rw [after_step, step_registry, registrations_step, List.lookup_append, ← ih]
      cases step.registers? with
      | none => exact Option.or_none.symm
      | some entry => exact register_get _ entry.1 entry.2 name

theorem contains_registered (steps : List Step) (name : String) :
    (after steps).registry.contains name = decide (name ∈ keys (registrations steps)) := by
  rw [contains, Entries.has, holds_first, Bool.eq_iff_iff, decide_eq_true_iff,
    ← Option.ne_none_iff_isSome, Ne, Entries.lookup_absent, not_not]

theorem held_contained (registry : Registry) (name : String) :
    name ∈ keys registry.templates ↔ registry.contains name := by
  constructor
  · intro held
    obtain ⟨entry, member, rfl⟩ := List.mem_map.mp held
    exact Option.isSome_iff_exists.mpr
      ⟨_, Entries.get_of_mem registry.templates registry.distinct entry member⟩
  · intro known
    obtain ⟨template, found⟩ := Option.isSome_iff_exists.mp known
    exact List.mem_map_of_mem (Entries.mem_of_get? _ _ _ found)

theorem held_registered (steps : List Step) (name : String) :
    name ∈ keys (after steps).registry.templates ↔ name ∈ keys (registrations steps) := by
  rw [held_contained, contains_registered, decide_eq_true_iff]

theorem size_registered (steps : List Step) :
    (after steps).registry.size = (keys (registrations steps)).toFinset.card :=
  Entries.length_distinct_names _ (after steps).registry.distinct _ (held_registered steps)

theorem empty_registered (steps : List Step) :
    (after steps).registry.isEmpty = (registrations steps).isEmpty := by
  have named : keys (after steps).registry.templates = [] ↔ keys (registrations steps) = [] := by
    simp only [List.eq_nil_iff_forall_not_mem, held_registered]
  rw [keys, keys, List.map_eq_nil_iff, List.map_eq_nil_iff] at named
  rw [isEmpty, Bool.eq_iff_iff, List.isEmpty_iff, List.isEmpty_iff, named]

theorem names_registered (steps : List Step) :
    (after steps).registry.names.Pairwise
        (fun a b => a.toUTF8.data.toList < b.toUTF8.data.toList) ∧
      ∀ name, name ∈ (after steps).registry.names ↔ name ∈ keys (registrations steps) := by
  constructor
  · have ascending := Text.sorted_ascending _ (after steps).registry.distinct
    exact ascending.imp fun {a b} below => Text.bytes_before a b below
  · intro name
    rw [names, List.mem_mergeSort, held_registered]

theorem lookup_first (steps : List Step) :
    (after steps).registry.lookup = callFirst (registrations steps) := by
  funext name params
  rw [callFirst, ← holds_first]
  rfl

theorem register_flag (before : List Step) (name : String) (template : Template) :
    ((after before).step (.register name template)).2 =
      .flag (decide (name ∉ keys (registrations before))) := by
  have given : ((after before).step (.register name template)).2 =
      .flag ((after before).registry.register name template).2 := rfl
  rw [given, register_added, contains_registered, decide_not]

-- A name that is taken leaves the session as it is, so that nothing later can differ.
theorem refused_unchanged (before later : List Step) (name : String) (template : Template)
    (taken : name ∈ keys (registrations before)) :
    answersTo (before ++ .register name template :: later) =
      answersTo before ++ .flag false :: ((after before).run later).2 := by
  have contained : (after before).registry.contains name := by
    rw [contains_registered, decide_eq_true taken]
  have unchanged : after (before ++ [.register name template]) = after before := by
    rw [after_step, Session.step, register_taken _ name template contained]
  rw [answers_step, unchanged, register_flag, decide_eq_false (not_not_intro taken)]

theorem first_registrations_answer (before : List Step) :
    let session := after before
    let registered := registrations before
    let answer := fun step => (session.step step).2
    (∀ step later, ∃ rest,
        answersTo (before ++ step :: later) = answersTo before ++ answer step :: rest) ∧
      (∀ name template,
        answer (.register name template) = .flag (decide (name ∉ keys registered))) ∧
      (∀ name template later, name ∈ keys registered → ∃ rest,
        answersTo (before ++ later) = answersTo before ++ rest ∧
          answersTo (before ++ .register name template :: later) =
            answersTo before ++ .flag false :: rest) ∧
      (∀ step, step.registers? = none → (session.step step).1.registry = session.registry) ∧
      (∀ name params, answer (.lookup name params) =
        .node ((callFirst registered name params).account session.past)) ∧
      (∀ node limit,
        let rendered := (node.renderBy (callFirst registered) limit).account session.past
        let resolved := (node.resolveBy (callFirst registered) limit).account session.past
        answer (.render node limit) = .text rendered ∧
          answer (.renderTo node limit) =
            .written rendered.written (rendered.outcome.map fun _ => ()) ∧
          answer (.resolve node limit) = .resolved resolved) ∧
      answer .size = .count (keys registered).toFinset.card ∧
      answer .isEmpty = .flag registered.isEmpty ∧
      (∀ name, answer (.contains name) = .flag (decide (name ∈ keys registered))) ∧
      ∃ names, answer .names = .names names ∧
        names.Pairwise (fun a b => a.toUTF8.data.toList < b.toUTF8.data.toList) ∧
        ∀ name, name ∈ names ↔ name ∈ keys registered := by
  intro session registered answer
  have calls : session.registry.lookup = callFirst registered := lookup_first before
  obtain ⟨ascending, member⟩ := names_registered before
  refine ⟨?_, register_flag before, ?_, ?_, ?_, ?_, ?_, ?_, ?_, _, rfl, ascending, member⟩
  · intro step later
    exact ⟨_, answers_step before later step⟩
  · intro name template later taken
    exact ⟨_, answers_append before later, refused_unchanged before later name template taken⟩
  · intro step asks
    rw [step_registry, asks]
  · intro name params
    rw [← calls]
    rfl
  · intro node limit
    rw [← calls, ← render_by, ← resolve_by]
    exact ⟨rfl, rfl, rfl⟩
  · exact congrArg Answer.count (size_registered before)
  · exact congrArg Answer.flag (empty_registered before)
  · exact fun name => congrArg Answer.flag (contains_registered before name)

def counting (text : String) : Template :=
  fun past _ => .ok (.text (text ++ toString past.length))

def firstSteps : List Step :=
  [.register "b" (counting "first"), .lookup "b" .null, .register "a" (counting "other")]

def laterSteps : List Step :=
  [.register "c" (counting "later"), .renderTo (.reference ⟨"b", .null⟩) 1, .size]

theorem second_registration_refused :
    "b" ∈ keys (registrations firstSteps) ∧ Step.names.registers? = none ∧
      (∃ rest, answersTo (firstSteps ++ laterSteps) = answersTo firstSteps ++ rest ∧
        answersTo (firstSteps ++ .register "b" (counting "second") :: laterSteps) =
          answersTo firstSteps ++ .flag false :: rest ∧
        rest = [.flag true, .written "first1" (.ok ()), .count 3]) ∧
      ((after firstSteps).step .names).1.registry = (after firstSteps).registry := by
  have taken : "b" ∈ keys (registrations firstSteps) := by decide
  obtain ⟨-, -, refused, unchanged, -⟩ := first_registrations_answer firstSteps
  obtain ⟨rest, without, within⟩ := refused "b" (counting "second") laterSteps taken
  have given : answersTo (firstSteps ++ laterSteps) =
      answersTo firstSteps ++ [.flag true, .written "first1" (.ok ()), .count 3] := rfl
  exact ⟨taken, rfl, ⟨rest, without, within, List.append_cancel_left (without.symm.trans given)⟩,
    unchanged .names rfl⟩

end Registry

end HtmlTemplate
