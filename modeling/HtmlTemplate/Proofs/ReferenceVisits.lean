import HtmlTemplate.Proofs.EndlessTemplates

/-!
A walk through a tree visits the references that rendering looks up, in the same order. The one
difference are those in the bodies of self-closing elements, which are visited but not rendered.
-/

set_option autoImplicit false

namespace HtmlTemplate

def Event.reference? : Event → Option Reference
  | .produced _ => none
  | .called name params => some ⟨name, params⟩
  | .missed name params => some ⟨name, params⟩

def Registry.GivesTexts (registry : Registry) : Prop :=
  ∀ entry ∈ registry.templates, ∀ past params, ∃ s, entry.2 past params = .ok (.text s)

namespace Node

mutual
-- The tree with the bodies of all self-closing elements emptied.
def emptied : Node → Node
  | .text s => .text s
  | .reference r => .reference r
  | .element ⟨tag, attributes, body, comment⟩ =>
    .element
      ⟨tag, attributes, if bodiless tag then body.map fun _ => .literal .empty else emptiedBody body,
        comment⟩
def emptiedBody : Option (Value (Body Node)) → Option (Value (Body Node))
  | some (.literal (.nodes children)) => some (.literal (.nodes (allEmptied children)))
  | other => other
def allEmptied : List Node → List Node
  | [] => []
  | node :: rest => emptied node :: allEmptied rest
end

def bodyReferences : Option (Value (Body Node)) → List Reference
  | some (.literal (.nodes children)) => referencesOf children
  | _ => []

end Node

theorem element_references (e : Element Node) :
    (Node.element e).references = Node.bodyReferences e.body := by
  obtain ⟨tag, attributes, body, comment⟩ := e
  rcases body with _ | ((_ | _) | _) <;> rfl

theorem emptied_bodiless (e : Element Node) (single : Node.bodiless e.tag) :
    (Node.element e).emptied.references = [] := by
  simp only [Node.emptied, single, if_true, element_references]
  cases e.body <;> rfl

theorem emptied_bodied (e : Element Node) (bodied : ¬ Node.bodiless e.tag) :
    (Node.element e).emptied.references = Node.bodyReferences (Node.emptiedBody e.body) := by
  rw [Node.emptied, if_neg bodied, element_references]

mutual
theorem emptied_sublist : (node : Node) → node.emptied.references.Sublist node.references
  | .text _ => .slnil
  | .reference _ => .refl _
  | .element ⟨tag, attributes, body, comment⟩ => by
      by_cases single : Node.bodiless tag = true
      · rw [emptied_bodiless _ single]
        exact List.nil_sublist _
      · rw [emptied_bodied _ single, element_references]
        exact emptied_body_sublist body
theorem emptied_body_sublist : (body : Option (Value (Body Node))) →
    (Node.bodyReferences (Node.emptiedBody body)).Sublist (Node.bodyReferences body)
  | none => .slnil
  | some (.deferred _) => .slnil
  | some (.literal (.text _)) => .slnil
  | some (.literal (.nodes children)) => all_emptied_sublist children
theorem all_emptied_sublist : (nodes : List Node) →
    (Node.referencesOf (Node.allEmptied nodes)).Sublist (Node.referencesOf nodes)
  | [] => .slnil
  | node :: rest => (emptied_sublist node).append (all_emptied_sublist rest)
end

-- Self-closing elements that would be rendered with a reference in their body.
def Node.DropsNothing (node : Node) : Prop :=
  ∀ e : Element Node, Node.RenderedIn (.element e) node → Node.bodiless e.tag →
    (Node.element e).references = []

theorem drops_nothing_child (e : Element Node) (nodes : List Node)
    (nothing : (Node.element e).DropsNothing) (listed : e.body = some (.literal (.nodes nodes)))
    (bodied : ¬ Node.bodiless e.tag) (node : Node) (member : node ∈ nodes) : node.DropsNothing :=
  fun inner rendered single => nothing inner (.child e nodes node listed bodied member rendered) single

mutual
theorem emptied_same : (node : Node) → node.DropsNothing →
    node.emptied.references = node.references
  | .text _, _ => rfl
  | .reference _, _ => rfl
  | .element ⟨tag, attributes, body, comment⟩, nothing => by
      by_cases single : Node.bodiless tag = true
      · rw [emptied_bodiless _ single, nothing _ .here single]
      · rw [emptied_bodied _ single, element_references]
        match body with
        | none => rfl
        | some (.deferred _) => rfl
        | some (.literal (.text _)) => rfl
        | some (.literal (.nodes children)) =>
            exact all_emptied_same children (drops_nothing_child _ children nothing rfl single)
theorem all_emptied_same : (nodes : List Node) → (∀ node ∈ nodes, node.DropsNothing) →
    Node.referencesOf (Node.allEmptied nodes) = Node.referencesOf nodes
  | [], _ => rfl
  | node :: rest, nothing => by
      obtain ⟨first, behind⟩ := List.forall_mem_cons.mp nothing
      rw [Node.allEmptied, Node.referencesOf, Node.referencesOf, emptied_same node first,
        all_emptied_same rest behind]
end

theorem sublists_whole {α : Type} (first whole second other : List α) (start : first.Sublist whole)
    (rest : second.Sublist other) (same : first ++ second = whole ++ other) :
    first = whole ∧ second = other := by
  have lengths := congrArg List.length same
  simp only [List.length_append] at lengths
  have short := start.length_le
  have shorter := rest.length_le
  exact ⟨start.eq_of_length (by omega), rest.eq_of_length (by omega)⟩

theorem all_emptied_whole (nodes : List Node)
    (same : Node.referencesOf (Node.allEmptied nodes) = Node.referencesOf nodes) :
    ∀ node ∈ nodes, node.emptied.references = node.references := by
  induction nodes with
  | nil => nofun
  | cons node rest ih =>
      obtain ⟨first, behind⟩ := sublists_whole _ _ _ _ (emptied_sublist node)
        (all_emptied_sublist rest) same
      exact List.forall_mem_cons.mpr ⟨first, ih behind⟩

theorem emptied_drops_nothing (node : Node) (same : node.emptied.references = node.references) :
    node.DropsNothing := by
  intro inner rendered single
  induction rendered with
  | here => rw [← same, emptied_bodiless inner single]
  | child e nodes node listed bodied member _ ih =>
      rw [emptied_bodied e bodied, element_references, listed] at same
      exact ih (all_emptied_whole nodes same node member)

section Rendering

variable (registry : Registry)

def Registry.recorded (past : Trace) (references : List Reference) : Trace :=
  (references.map registry.lookupEvent).reverse ++ past

theorem recorded_append (past : Trace) (references others : List Reference) :
    registry.recorded past (references ++ others) =
      registry.recorded (registry.recorded past references) others := by
  simp [Registry.recorded]

theorem lookup_event_reference (r : Reference) :
    (registry.lookupEvent r).reference? = some r := by
  unfold Registry.lookupEvent
  split <;> rfl

theorem lookup_gives_text (texts : registry.GivesTexts) (r : Reference) (past : Trace) :
    ∃ s, (registry.lookup r.name r.params).run.run past =
      (.ok (.text s), registry.lookupEvent r :: past) := by
  rw [lookup_run, Registry.lookupEvent]
  cases known : Entries.get? registry.templates r.name with
  | none => exact ⟨"", rfl⟩
  | some template =>
      obtain ⟨s, gives⟩ := texts _ (Entries.mem_of_get? _ _ _ known) past r.params
      dsimp only at gives ⊢
      rw [gives]
      exact ⟨s, rfl⟩

-- What is asked of the way in which child nodes are rendered: it looks up the references that are
-- left in the emptied node, and runs nothing else.
def LooksUp (child : Node → Run String) : Prop :=
  ∀ node, node.literal → ∀ past later s, (child node).run.run past = (.ok s, later) →
    later = registry.recorded past node.emptied.references

theorem children_look_up (child : Node → Run String) (looksUp : LooksUp registry child)
    (nodes : List Node) (given : Node.allLiteral nodes) (past later : Trace) (s : String)
    (ran : (Render.children child nodes).run.run past = (.ok s, later)) :
    later = registry.recorded past (Node.referencesOf (Node.allEmptied nodes)) := by
  induction nodes generalizing past s with
  | nil =>
      cases ran
      rfl
  | cons node rest ih =>
      obtain ⟨nodeGiven, restGiven⟩ := (all_literal_cons node rest).mp given
      obtain ⟨first, between, begun, behind⟩ := (Run.bind_gives _ _ _ _ _).mp ran
      obtain ⟨others, last, continued, ended⟩ := (Run.bind_gives _ _ _ _ _).mp behind
      cases ended
      rw [Node.allEmptied, Node.referencesOf, recorded_append,
        ← looksUp node nodeGiven past between first begun]
      exact ih restGiven between others continued

theorem element_looks_up (child : Node → Run String) (looksUp : LooksUp registry child)
    (e : Element Node) (given : (Node.element e).literal) (past later : Trace) (s : String)
    (ran : (Render.element child e.resolved).run.run past = (.ok s, later)) :
    later = registry.recorded past (Node.element e).emptied.references := by
  by_cases whole :
      Node.bodiless e.tag ∨ e.body = none ∨ ∃ s, e.body = some (.literal (.text s))
  · rw [(whole_element child e whole).1] at ran
    cases ran
    have none : (Node.element e).emptied.references = [] := by
      by_cases single : Node.bodiless e.tag = true
      · exact emptied_bodiless e single
      · rw [emptied_bodied e single]
        rcases whole.resolve_left single with absent | ⟨s, text⟩
        · rw [absent]
          rfl
        · rw [text]
          rfl
    rw [none]
    rfl
  · obtain ⟨bodied, nodes, listed, nodesGiven, written⟩ := parted_element child e given whole
    rw [written] at ran
    obtain ⟨content, inside, _⟩ := (Run.map_gives _ _ _ _ _).mp ran
    rw [emptied_bodied e bodied, listed]
    exact children_look_up registry child looksUp nodes nodesGiven past later content inside

theorem node_looks_up (texts : registry.GivesTexts) (limit room : Nat) :
    LooksUp registry (Render.node registry limit room) := by
  induction room with
  | zero =>
      intro node _ past later s ran
      cases ran
  | succ room ih =>
      intro node given past later s ran
      cases node with
      | text t =>
          obtain ⟨resolved, between, found, written⟩ := (Run.bind_gives _ _ _ _ _).mp ran
          rw [Node.resolve, resolve_within_text] at found
          cases found
          cases written
          rfl
      | element e =>
          rw [render_node_element registry limit room e given] at ran
          exact element_looks_up registry _ ih e given past later s ran
      | reference r =>
          obtain ⟨resolved, between, found, written⟩ := (Run.bind_gives _ _ _ _ _).mp ran
          cases limit with
          | zero => cases found
          | succ limit =>
              -- A template makes a text, so that a reference is one look-up and no more.
              obtain ⟨node, reached, looked, ended⟩ := (Run.bind_gives _ _ _ _ _).mp found
              obtain ⟨t, gives⟩ := lookup_gives_text registry texts r past
              rw [gives] at looked
              cases looked
              rw [resolve_within_text] at ended
              cases ended
              cases written
              rfl

end Rendering

theorem recorded_account {α : Type} (registry : Registry) (run : Run α) (past : Trace)
    (references : List Reference) (a : α)
    (ran : run.run.run past = (.ok a, registry.recorded past references)) :
    (run.account past).events.filterMap Event.reference? = references := by
  have opened : (run.account past).events =
      ((run.run.run past).2.take ((run.run.run past).2.length - past.length)).reverse := rfl
  rw [opened, ran]
  simp [Registry.recorded, List.filterMap_map, lookup_event_reference]

theorem references_looked_up (registry : Registry) (texts : registry.GivesTexts) (limit : Nat)
    (node : Node) (given : node.literal) (past : Trace) (s : String)
    (compiled : ((node.render registry limit).account past).outcome = .ok s) :
    let looked := ((node.render registry limit).account past).events.filterMap Event.reference?
    looked = node.emptied.references ∧ looked.Sublist node.references ∧
      (looked = node.references ↔
        ∀ e : Element Node, Node.RenderedIn (.element e) node → Node.bodiless e.tag →
          (Node.element e).references = []) := by
  intro looked
  have ran : (node.render registry limit).run.run past =
      (.ok s, registry.recorded past node.emptied.references) := by
    refine Prod.ext compiled ?_
    exact node_looks_up registry texts limit (limit + 1) node given past _ s (Prod.ext compiled rfl)
  have same : looked = node.emptied.references := recorded_account registry _ past _ s ran
  rw [same]
  exact ⟨rfl, emptied_sublist node, emptied_drops_nothing node, emptied_same node⟩

def greetingEntries : List (String × Template) :=
  [("greet", fun _ params =>
    match params with
    | .string s => .ok (.text s)
    | _ => .ok (.text "?"))]

def greetingTemplates : Registry :=
  Registry.ofList greetingEntries

-- The greeting in the line break is visited, but not looked up.
def droppedGreeting : Node :=
  .element
    ⟨some (.literal "BR"), none, some (.literal (.nodes [.reference ⟨"greet", .null⟩])), none⟩

def greetingPage : Node :=
  pageOf [.reference ⟨"greet", .string "a"⟩, droppedGreeting,
    headingOf [.reference ⟨"missing", .null⟩, .reference ⟨"greet", .bool true⟩]]

theorem greeting_page_looked_up :
    greetingTemplates.GivesTexts ∧ greetingPage.literal ∧
      let account := (greetingPage.render greetingTemplates 2).account []
      let looked := account.events.filterMap Event.reference?
      account.outcome = .ok "a<br/><h1>?</h1>" ∧
        looked = [⟨"greet", .string "a"⟩, ⟨"missing", .null⟩, ⟨"greet", .bool true⟩] ∧
        looked.Sublist greetingPage.references ∧ looked ≠ greetingPage.references := by
  have texts : greetingTemplates.GivesTexts := by
    have listed : greetingTemplates.templates = greetingEntries := rfl
    rw [Registry.GivesTexts, listed]
    simp only [greetingEntries, List.forall_mem_singleton]
    intro past params
    cases params <;> exact ⟨_, rfl⟩
  have compiled : ((greetingPage.render greetingTemplates 2).account []).outcome =
      .ok "a<br/><h1>?</h1>" := rfl
  have single : Node.bodiless (some (.literal "BR")) := by decide +kernel
  obtain ⟨same, visited, whole⟩ :=
    references_looked_up greetingTemplates texts 2 greetingPage rfl [] _ compiled
  have left : greetingPage.emptied.references =
      [⟨"greet", .string "a"⟩, ⟨"missing", .null⟩, ⟨"greet", .bool true⟩] := rfl
  refine ⟨texts, rfl, compiled, same.trans left, visited, fun all => ?_⟩
  have dropped := whole.mp all _ (.child _ _ droppedGreeting rfl (by decide) (by simp) .here) single
  cases dropped

end HtmlTemplate
