import HtmlTemplate.Proofs.CallSequence
import HtmlTemplate.Proofs.Literal
import HtmlTemplate.Proofs.Run

set_option autoImplicit false

namespace HtmlTemplate

open Stage (firstFailure reached)

-- A run passes some stages up to the first one that fails; if none does it gives `a`.
def Run.Follows {α : Type} (run : Run α) (trace : Trace) (stages : List Stage) (a : α) : Prop :=
  run.run.run trace =
    ((firstFailure stages).elim (.ok a) .error, Stage.past trace (reached stages))

section Follows

variable {α β : Type}

theorem follows_pure (a : α) (trace : Trace) : Run.Follows (pure a) trace [] a := rfl

theorem follows_bind (first : Run α) (next : α → Run β) (trace : Trace)
    (stages others : List Stage) (a : α) (b : β) (start : first.Follows trace stages a)
    (rest : firstFailure stages = none → (next a).Follows (Stage.past trace stages) others b) :
    (first >>= next).Follows trace (stages ++ others) b := by
  unfold Run.Follows at start rest ⊢
  rw [Run.bind_on, start, Stage.first_failure_append, Stage.reached_append]
  cases failed : firstFailure stages with
  | some e => rfl
  | none =>
      rw [Stage.reached_whole stages failed]
      simp [rest failed, Stage.past_append]

theorem follows_map (f : α → β) (run : Run α) (trace : Trace) (stages : List Stage) (a : α)
    (follows : run.Follows trace stages a) : (f <$> run).Follows trace stages (f a) := by
  have mapped := follows_bind run (fun a => pure (f a)) trace stages [] a (f a) follows
    fun _ => follows_pure (f a) _
  rw [List.append_nil] at mapped
  rw [map_eq_pure_bind]
  exact mapped

theorem follows_cut (run : Run α) (trace : Trace) (stages others behind : List Stage) (a b : α)
    (failed : (firstFailure stages).isSome) (follows : run.Follows trace (stages ++ others) a) :
    run.Follows trace (stages ++ behind) b := by
  unfold Run.Follows at follows ⊢
  rw [follows]
  obtain ⟨e, found⟩ := Option.isSome_iff_exists.mp failed
  simp [Stage.first_failure_append, Stage.reached_append, found]

theorem follows_told (run : Run α) (trace : Trace) (stages others : List Stage) (a : α)
    (same : others.map Stage.told = stages.map Stage.told) (follows : run.Follows trace stages a) :
    run.Follows trace others a := by
  unfold Run.Follows at follows ⊢
  rw [follows, Stage.first_failure_told stages others same, Stage.past, Stage.past,
    Stage.events_told _ _ (Stage.reached_told stages others same)]

theorem follows_account (run : Run α) (trace : Trace) (stages : List Stage) (a : α)
    (follows : run.Follows trace stages a) :
    run.account trace =
      ⟨(firstFailure stages).elim (.ok a) .error, Stage.past trace (reached stages),
        Stage.events (reached stages)⟩ := by
  rw [Run.account_on, follows]
  simp [Stage.past]

theorem follows_call [Labelled α] (run : Run α) (trace : Trace) (event : Event)
    (outcome : Except Error α) (ran : run.run.run trace = (outcome, event :: trace)) (a : α)
    (gives : ∀ given, outcome = .ok given → a = given) :
    run.Follows trace [callStage event outcome] a := by
  rw [Run.Follows, ran]
  cases outcome with
  | ok given =>
      cases gives given rfl
      rfl
  | error e => rfl

theorem follows_field [Labelled α] (absent : α) (field : Option (Value α)) (trace : Trace) :
    (forceField absent field).Follows trace (fieldStages trace field)
      (fieldGives trace absent field) := by
  match field with
  | none => rfl
  | some (.literal a) => rfl
  | some (.deferred d) =>
      refine follows_call _ _ _ _ (Run.deferred_on d trace) _ fun given made => ?_
      simp [fieldGives, made]

theorem follows_field_bind [Labelled α] (absent : α) (field : Option (Value α)) (next : α → Run β)
    (trace : Trace) (others : List Stage) (b : β)
    (rest : (next (fieldGives trace absent field)).Follows (fieldPast trace field) others b) :
    (forceField absent field >>= next).Follows trace (fieldStages trace field ++ others) b := by
  refine follows_bind _ _ _ _ _ _ _ (follows_field absent field trace) fun _ => ?_
  rw [past_field]
  exact rest

end Follows

theorem follows_values (entries : List (String × Value String)) (trace : Trace) :
    (Attributes.forceAll entries).Follows trace (valueStages trace entries)
      (valuesGiven trace entries) := by
  induction entries generalizing trace with
  | nil => rfl
  | cons entry rest ih =>
      obtain ⟨key, value⟩ := entry
      exact follows_field_bind "" (some value) _ _ _ _ (follows_map _ _ _ _ _ (ih _))

def Element.given (e : Element Node) (trace : Trace) : ResolvedElement where
  tag := normalizeTag (fieldGives trace "" e.tag)
  attributes := valuesGiven (e.mappingPast trace) (e.mappingGiven trace)
  body := fieldGives (e.tagPast trace) .empty e.body
  comment := e.comment.map fun value =>
    fieldGives (valuesPast (e.mappingPast trace) (e.mappingGiven trace)) "" (some value)

theorem follows_element (e : Element Node) (trace : Trace) :
    e.resolve.Follows trace (e.stages trace) (e.given trace) := by
  unfold Element.stages
  simp only [List.append_assoc]
  refine follows_field_bind "" e.tag _ trace _ _ ?_
  refine follows_field_bind .empty e.body _ (e.tagPast trace) _ _ ?_
  refine follows_field_bind .empty e.attributes _ (e.bodyPast trace) _ _ ?_
  refine follows_bind _ _ (e.mappingPast trace) _ _ _ _
    (follows_values (e.mappingGiven trace) _) fun _ => ?_
  rw [past_values]
  obtain ⟨tag, attributes, body, comment⟩ := e
  cases comment with
  | none => rfl
  | some value =>
      have forced := follows_field "" (some value)
      exact follows_map _ _ _ _ _ (follows_map some _ _ _ _ (forced _))

section Rendering

variable (registry : Registry) (limit : Nat)

theorem lookup_run (name : String) (params : Json) (trace : Trace) :
    (registry.lookup name params).run.run trace =
      match Entries.get? registry.templates name with
      | some template => (template trace params, .called name params :: trace)
      | none => (.ok .empty, .missed name params :: trace) := by
  have opened : (registry.lookup name params).run.run trace =
      (match Entries.get? registry.templates name with
        | some template => do
          set (Event.called name params :: trace)
          Run.ofExcept (template trace params)
        | none => do
          set (Event.missed name params :: trace)
          return Node.empty : Run Node).run.run trace := rfl
  rw [opened]
  cases Entries.get? registry.templates name with
  | none => rfl
  | some template =>
      dsimp only
      cases template trace params <;> rfl

theorem follows_chain (left : Nat) (trace : Trace) (node : Node) :
    ∃ s, (node.resolveWithin registry limit left).Follows trace
      ((node.chain registry limit left trace).1 ++
        (node.chain registry limit left trace).2.elim [] fun e =>
          e.stages (Stage.past trace (node.chain registry limit left trace).1))
      ((node.chain registry limit left trace).2.elim (.text s) fun e =>
        .element (e.given (Stage.past trace (node.chain registry limit left trace).1))) := by
  induction left generalizing trace node with
  | zero =>
      cases node with
      | text s => exact ⟨s, rfl⟩
      | element e => exact ⟨"", follows_map _ _ _ _ _ (follows_element e trace)⟩
      | reference r => exact ⟨"", rfl⟩
  | succ left ih =>
      cases node with
      | text s => exact ⟨s, rfl⟩
      | element e => exact ⟨"", follows_map _ _ _ _ _ (follows_element e trace)⟩
      | reference r =>
          obtain ⟨name, params⟩ := r
          have looked := lookup_run registry name params trace
          cases known : Entries.get? registry.templates name with
          | none =>
              simp only [known] at looked
              simp only [Node.chain, known]
              have called := follows_call _ _ _ _ looked .empty fun _ same => Except.ok.inj same
              have ended : (Node.resolveWithin registry limit left .empty) = pure (.text "") :=
                resolve_within_text registry limit left ""
              exact ⟨"", follows_bind _ _ _ _ _ _ _ called fun _ => ended ▸ follows_pure _ _⟩
          | some template =>
              simp only [known] at looked
              simp only [Node.chain, known]
              cases outcome : template trace params with
              | error e =>
                  rw [outcome] at looked
                  have called := follows_call _ _ _ _ looked .empty fun _ same => by cases same
                  refine ⟨"", follows_bind _ _ _ _ _ (.text "") _ called fun passed => ?_⟩
                  cases passed
              | ok given =>
                  rw [outcome] at looked
                  have called := follows_call _ _ _ _ looked given fun _ same => Except.ok.inj same
                  obtain ⟨s, behind⟩ := ih (.called name params :: trace) given
                  dsimp only
                  rw [past_call]
                  exact ⟨s, follows_bind _ _ _ [_] _ _ _ called fun _ => behind⟩

-- What is asked of the way in which single nodes are rendered.
def Visits (child : Node → Run String) (single : Trace → Node → List Stage) : Prop :=
  ∀ trace node, ∃ text, (child node).Follows trace (single trace node) text

theorem follows_children (child : Node → Run String) (single : Trace → Node → List Stage)
    (visits : Visits child single) (nodes : List Node) (trace : Trace) :
    ∃ text, (Render.children child nodes).Follows trace
      (Node.stagesOf single trace nodes) text := by
  induction nodes generalizing trace with
  | nil => exact ⟨"", rfl⟩
  | cons node rest ih =>
      obtain ⟨first, start⟩ := visits trace node
      obtain ⟨others, behind⟩ := ih (Stage.past trace (single trace node))
      have joined := follows_map (first ++ ·) _ _ _ _ behind
      exact ⟨first ++ others, follows_bind _ _ _ _ _ _ _ start fun _ => joined⟩

theorem follows_body (child : Node → Run String) (single : Trace → Node → List Stage)
    (visits : Visits child single) (body : Body Node) (trace : Trace) :
    ∃ text, (Render.body child body).Follows trace
      (Node.stagesOf single trace body.children) text := by
  cases body with
  | text s => exact ⟨s, rfl⟩
  | nodes children => exact follows_children child single visits children trace

theorem follows_rendered (child : Node → Run String) (single : Trace → Node → List Stage)
    (visits : Visits child single) (e : Element Node) (past trace : Trace) :
    ∃ text, (Render.element child (e.given past)).Follows trace
      (Node.stagesOf single trace (e.renderedChildren past)) text := by
  obtain ⟨text, written⟩ := follows_body child single visits (e.given past).body trace
  unfold Render.element Element.renderedChildren
  have tagged : (e.given past).tag = normalizeTag (fieldGives past "" e.tag) := rfl
  rw [tagged]
  cases normalizeTag (fieldGives past "" e.tag) with
  | none => exact ⟨_, follows_map _ _ _ _ _ written⟩
  | some tag =>
      by_cases single : Render.isSelfClosing tag = true
      · simp only [single, Option.any_some, if_true]
        exact ⟨_, follows_pure _ _⟩
      · simp only [single, Option.any_some]
        exact ⟨_, follows_map _ _ _ _ _ written⟩

theorem follows_node (room : Nat) :
    Visits (Render.node registry limit room) (Node.stagesWithin registry limit room) := by
  induction room with
  | zero => exact fun trace node => ⟨"", rfl⟩
  | succ room ih =>
      intro trace node
      obtain ⟨s, resolved⟩ := follows_chain registry limit limit trace node
      rcases chained : node.chain registry limit limit trace with ⟨calls, found⟩
      rw [chained] at resolved
      simp only [Node.stagesWithin, chained]
      cases found with
      | none =>
          have written : (Render.node registry limit (room + 1) node).Follows trace _ s :=
            follows_bind _ _ _ _ _ _ _ resolved fun _ => follows_pure s _
          rw [List.append_nil] at written
          exact ⟨s, written⟩
      | some e =>
          let past := Stage.past trace calls
          obtain ⟨text, rendered⟩ :=
            follows_rendered _ _ ih e past (Stage.past past (e.stages past))
          rw [← Stage.past_append] at rendered
          have written : (Render.node registry limit (room + 1) node).Follows trace _ text :=
            follows_bind _ _ _ _ _ _ _ resolved fun _ => rendered
          rw [List.append_assoc, Stage.past_append] at written
          exact ⟨text, written⟩

end Rendering

end HtmlTemplate
