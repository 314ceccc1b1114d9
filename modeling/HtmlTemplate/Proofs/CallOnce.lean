import HtmlTemplate.Proofs.CallOrder

/-!
No deferred value is produced twice: every label is produced at most as often as it stands in the
node and in what was given on the way.
-/

set_option autoImplicit false

namespace HtmlTemplate

open Stage (firstFailure reached)

def producedLabels (events : List Event) : List (Option String) :=
  events.filterMap fun event =>
    match event with
    | .produced label => some label
    | .called _ _ => none
    | .missed _ _ => none

theorem produced_labels_append (events others : List Event) :
    producedLabels (events ++ others) = producedLabels events ++ producedLabels others :=
  List.filterMap_append

-- Wherever some stages are left, no more is produced than was held or given. Behind all of them
-- there still is what is left over.
structure Uses (stages : List Stage) (held left : List (Option String)) : Prop where
  within : ∀ count label,
    (producedLabels (Stage.events (stages.take count))).count label ≤
      (held ++ (stages.take count).flatMap Stage.given).count label
  behind : ∀ label,
    (producedLabels (Stage.events stages)).count label + left.count label ≤
      (held ++ stages.flatMap Stage.given).count label

section Uses

theorem uses_nil (held : List (Option String)) : Uses [] held held where
  within := by simp [Stage.events, producedLabels]
  behind := by simp [Stage.events, producedLabels]

theorem uses_frame (stages : List Stage) (before held left after : List (Option String))
    (uses : Uses stages held left) :
    Uses stages (before ++ held ++ after) (before ++ left ++ after) where
  within count label := by
    have bound := uses.within count label
    simp only [List.count_append] at bound ⊢
    omega
  behind label := by
    have bound := uses.behind label
    simp only [List.count_append] at bound ⊢
    omega

theorem uses_drop (stages : List Stage) (held left : List (Option String))
    (uses : Uses stages held left) : Uses stages held [] where
  within := uses.within
  behind label := Nat.le_trans (Nat.add_le_add_left (Nat.zero_le _) _) (uses.behind label)

theorem uses_append (stages others : List Stage) (held between left : List (Option String))
    (first : Uses stages held between) (second : Uses others between left) :
    Uses (stages ++ others) held left where
  within count label := by
    by_cases short : count ≤ stages.length
    · rw [List.take_append_of_le_length short]
      exact first.within count label
    · have whole := first.behind label
      have part := second.within (count - stages.length) label
      rw [List.take_append, List.take_of_length_le (Nat.le_of_not_le short)]
      simp only [Stage.events, List.filterMap_append, produced_labels_append, List.flatMap_append,
        List.count_append] at whole part ⊢
      omega
  behind label := by
    have whole := first.behind label
    have rest := second.behind label
    simp only [Stage.events, List.filterMap_append, produced_labels_append, List.flatMap_append,
      List.count_append] at whole rest ⊢
    omega

theorem uses_single (stage : Stage) (left : List (Option String))
    (covered : ∀ label, left.count label ≤ stage.given.count label) :
    Uses [stage] (producedLabels (Stage.events [stage])) left where
  within count label := by
    cases count with
    | zero => simp [Stage.events, producedLabels]
    | succ count => simp [List.count_append]
  behind label := by
    have kept := covered label
    simp only [List.flatMap_singleton, List.count_append]
    omega

end Uses

section Calls

variable {α : Type} [Labelled α]

theorem uses_call (event : Event) (outcome : Except Error α) (left : List (Option String))
    (given : ∀ a, outcome = .ok a → left = Labelled.labels a)
    (nothing : ∀ e, outcome = .error e → left = []) :
    Uses [callStage event outcome] (producedLabels [event]) left := by
  have held : Stage.events [callStage event outcome] = [event] := by
    simp [Stage.events, call_stage_event]
  rw [← held]
  refine uses_single _ _ fun label => ?_
  cases outcome with
  | ok a =>
      rw [given a rfl]
      exact Nat.le_refl _
  | error e =>
      rw [nothing e rfl]
      exact Nat.zero_le _

theorem uses_field (trace : Trace) (absent : α) (bare : Labelled.labels absent = [])
    (field : Option (Value α)) :
    Uses (fieldStages trace field) (fieldLabels field)
      (Labelled.labels (fieldGives trace absent field)) := by
  match field with
  | none =>
      rw [fieldGives, bare]
      exact uses_nil []
  | some (.literal a) => exact uses_nil _
  | some (.deferred d) =>
      refine uses_call (.produced d.label) (d.outcome trace) _ ?_ ?_
      · intro a given
        rw [fieldGives, given]
      · intro e failed
        rw [fieldGives, failed]
        exact bare

end Calls

theorem uses_values (trace : Trace) (entries : List (String × Value String)) :
    Uses (valueStages trace entries) (entryLabels entries) [] := by
  induction entries generalizing trace with
  | nil => exact uses_nil []
  | cons entry rest ih =>
      obtain ⟨key, value⟩ := entry
      have first := uses_field trace "" rfl (some value)
      exact uses_append _ _ _ _ _ (uses_frame _ [] _ _ (entryLabels rest) first) (ih _)

theorem body_labels (body : Option (Value (Body Node))) :
    fieldLabels body = Node.bodyLabels body := by
  match body with
  | none => rfl
  | some (.literal (.text s)) => rfl
  | some (.literal (.nodes children)) => rfl
  | some (.deferred d) => rfl

theorem uses_element (trace : Trace) (e : Element Node) :
    Uses (e.stages trace) (Node.element e).labels
      (Labelled.labels (fieldGives (e.tagPast trace) .empty e.body)) := by
  let later := fieldLabels e.attributes ++ fieldLabels e.comment
  let children := Labelled.labels (fieldGives (e.tagPast trace) .empty e.body)
  have held : (Node.element e).labels = fieldLabels e.tag ++ (fieldLabels e.body ++ later) := by
    obtain ⟨tag, attributes, body, comment⟩ := e
    simp only [Node.labels, body_labels, later, List.append_assoc]
  have tag := uses_frame _ [] _ _ (fieldLabels e.body ++ later) (uses_field trace "" rfl e.tag)
  have body := uses_frame _ [] _ _ later (uses_field (e.tagPast trace) Body.empty rfl e.body)
  have mapping := uses_frame _ children _ _ (fieldLabels e.comment)
    (uses_field (e.bodyPast trace) Attributes.empty rfl e.attributes)
  have values := uses_frame _ children _ _ (fieldLabels e.comment)
    (uses_values (e.mappingPast trace) (e.mappingGiven trace))
  have comment : Uses _ (children ++ fieldLabels e.comment ++ []) (children ++ [] ++ []) :=
    uses_frame _ children _ _ []
      (uses_field (valuesPast (e.mappingPast trace) (e.mappingGiven trace)) "" rfl e.comment)
  rw [List.append_assoc] at mapping
  simp only [List.append_nil] at values comment
  have filled := uses_append _ _ _ _ _ tag body
  have mapped := uses_append _ _ _ _ _ filled mapping
  rw [held]
  exact uses_append _ _ _ _ _ (uses_append _ _ _ _ _ mapped values) comment

theorem uses_nodes (single : Trace → Node → List Stage)
    (uses : ∀ trace node, Uses (single trace node) node.labels []) (nodes : List Node)
    (trace : Trace) : Uses (Node.stagesOf single trace nodes) (Node.labelsOf nodes) [] := by
  induction nodes generalizing trace with
  | nil => exact uses_nil []
  | cons node rest ih =>
      exact uses_append _ _ _ _ _ (uses_frame _ [] _ _ (Node.labelsOf rest) (uses trace node)) (ih _)

theorem uses_children (single : Trace → Node → List Stage)
    (uses : ∀ trace node, Uses (single trace node) node.labels []) (e : Element Node)
    (past trace : Trace) :
    Uses (Node.stagesOf single trace (e.renderedChildren past))
      (Labelled.labels (fieldGives (e.tagPast past) .empty e.body)) [] := by
  rw [Element.renderedChildren]
  split
  · exact uses_drop _ _ _ (uses_nil _)
  · exact uses_nodes single uses _ trace

section Rendering

variable (registry : Registry) (limit : Nat)

theorem uses_chain (left : Nat) (trace : Trace) (node : Node) :
    Uses (node.chain registry limit left trace).1 node.labels
      ((node.chain registry limit left trace).2.elim [] fun e => (Node.element e).labels) := by
  induction left generalizing trace node with
  | zero =>
      cases node with
      | text s => exact uses_nil []
      | element e => exact uses_nil _
      | reference r => exact uses_single (.tooDeep limit) [] fun _ => Nat.zero_le _
  | succ left ih =>
      cases node with
      | text s => exact uses_nil []
      | element e => exact uses_nil _
      | reference r =>
          obtain ⟨name, params⟩ := r
          simp only [Node.chain]
          cases Entries.get? registry.templates name with
          | none => exact uses_single (.call (.missed name params) none []) [] fun _ => Nat.zero_le _
          | some template =>
              dsimp only
              cases template trace params with
              | error e =>
                  exact uses_single (.call (.called name params) (some e) []) [] fun _ => Nat.zero_le _
              | ok given =>
                  have called := uses_single (.call (.called name params) none given.labels)
                    given.labels fun _ => Nat.le_refl _
                  exact uses_append [_] _ _ _ _ called (ih _ given)

theorem stages_use (room : Nat) (trace : Trace) (node : Node) :
    Uses (node.stagesWithin registry limit room trace) node.labels [] := by
  induction room generalizing trace node with
  | zero =>
      have mark := uses_single (.tooDeep limit) [] fun _ => Nat.zero_le _
      exact uses_drop _ _ _ (uses_frame _ [] _ _ node.labels mark)
  | succ room ih =>
      have chain := uses_chain registry limit limit trace node
      rcases chained : node.chain registry limit limit trace with ⟨calls, found⟩
      rw [chained] at chain
      simp only [Node.stagesWithin, chained]
      refine uses_append _ _ _ _ _ chain ?_
      cases found with
      | none => exact uses_nil []
      | some e =>
          exact uses_append _ _ _ _ _ (uses_element _ e) (uses_children _ ih e _ _)

end Rendering

theorem reached_take (stages : List Stage) : ∃ count, reached stages = stages.take count := by
  induction stages with
  | nil => exact ⟨0, rfl⟩
  | cons stage rest ih =>
      obtain ⟨count, same⟩ := ih
      by_cases failed : stage.failure?.isSome = true
      · exact ⟨1, by simp [reached, failed]⟩
      · exact ⟨count + 1, by simp [reached, failed, same]⟩

theorem render_makes_calls_in_order (registry : Registry) (limit : Nat) (node : Node)
    (past : Trace) :
    let sequence := node.stages registry limit past
    let account := (node.render registry limit).account past
    account.events = Stage.events (reached sequence) ∧
      (∀ e, account.outcome = .error e ↔ firstFailure sequence = some e) ∧
      ((firstFailure sequence).isSome → account.written = "") ∧
      (∀ label, (producedLabels account.events).count label ≤
        (node.labels ++ (reached sequence).flatMap Stage.given).count label) ∧
      ∀ larger, limit ≤ larger → (∀ deep, .tooDeep deep ∉ reached sequence) →
        reached (node.stages registry larger past) = reached sequence := by
  intro sequence account
  obtain ⟨text, follows⟩ := follows_node registry limit (limit + 1) past node
  have told : account = ⟨(firstFailure sequence).elim (.ok text) .error,
      Stage.past past (reached sequence), Stage.events (reached sequence)⟩ :=
    follows_account _ past sequence text follows
  rw [told]
  refine ⟨rfl, ?_, ?_, ?_, ?_⟩
  · intro e
    cases firstFailure sequence <;> simp
  · intro failed
    obtain ⟨e, failed⟩ := Option.isSome_iff_exists.mp failed
    simp [Account.written, failed]
  · intro label
    obtain ⟨count, same⟩ := reached_take sequence
    rw [same]
    exact (stages_use registry limit (limit + 1) past node).within count label
  · intro larger within shallow
    rcases stages_agree registry limit larger within (limit + 1) (larger + 1)
      (Nat.succ_le_succ within) past node with ⟨deep, marked⟩ | same
    · exact absurd marked (shallow deep)
    · exact same


-- The title comes from a template, the line break drops what was produced for it, and the last child
-- fails before its comment is asked for.
def producedPage : Node :=
  let mapping := Attributes.empty.set "id" (.deferred (.fixed (some "id") (.ok "1")))
  let failing := .fixed (some "failing") (.error (.failure "no tag"))
  let body := .nodes
    [.reference ⟨"title", .null⟩,
      .element ⟨some (.literal "br"), none, some (.deferred
        (.fixed (some "dropped") (.ok (.nodes [.reference ⟨"title", .null⟩])))), none⟩,
      .element ⟨some (.deferred failing), none, none,
        some (.deferred (.fixed (some "unasked") (.ok "c")))⟩]
  .element
    ⟨some (.deferred (.fixed (some "tag") (.ok "DIV"))),
      some (.deferred (.fixed (some "attributes") (.ok mapping))),
      some (.deferred (.fixed (some "body") (.ok body))),
      some (.deferred ⟨some "comment", fun past => .ok (toString past.length)⟩)⟩

def titleTemplates : Registry :=
  Registry.ofList
    [("title", fun _ _ => .ok (.element
      ⟨some (.literal "b"), none, some (.deferred (.fixed (some "title") (.ok (.text "t")))), none⟩))]

theorem produced_page_calls :
    1 ≤ 3 ∧
      (∀ deep, .tooDeep deep ∉ reached (producedPage.stages titleTemplates 1 [])) ∧
      ((producedPage.render titleTemplates 1).account []).events =
        [.produced (some "tag"), .produced (some "body"), .produced (some "attributes"),
          .produced (some "id"), .produced (some "comment"), .called "title" .null,
          .produced (some "title"), .produced (some "dropped"), .produced (some "failing")] ∧
      ((producedPage.render titleTemplates 1).account []).outcome = .error (.failure "no tag") ∧
      ((producedPage.render titleTemplates 1).account []).written = "" ∧
      reached (producedPage.stages titleTemplates 3 []) =
        reached (producedPage.stages titleTemplates 1 []) := by
  have passed : reached (producedPage.stages titleTemplates 1 []) =
      [.call (.produced (some "tag")) none [],
        .call (.produced (some "body")) none
          [some "dropped", some "failing", some "unasked"],
        .call (.produced (some "attributes")) none [some "id"],
        .call (.produced (some "id")) none [], .call (.produced (some "comment")) none [],
        .call (.called "title" .null) none [some "title"],
        .call (.produced (some "title")) none [], .call (.produced (some "dropped")) none [],
        .call (.produced (some "failing")) (some (.failure "no tag")) []] := rfl
  have shallow : ∀ deep, .tooDeep deep ∉ reached (producedPage.stages titleTemplates 1 []) := by
    rw [passed]
    simp
  have failed : firstFailure (producedPage.stages titleTemplates 1 []) =
      some (.failure "no tag") := by
    rw [← Stage.first_failure_reached, passed]
    rfl
  obtain ⟨events, outcome, nothing, _, further⟩ :=
    render_makes_calls_in_order titleTemplates 1 producedPage []
  rw [passed] at events
  refine ⟨by decide, shallow, events, (outcome _).mpr failed, nothing ?_, further 3 ?_ shallow⟩
  · rw [failed]
    rfl
  · decide

end HtmlTemplate
