import HtmlTemplate.Proofs.Expansion

/-!
Templates without an end: each of them gives a node in which some template is rendered again. A node
that refers to one of them is too deep for every limit, and nothing else can go wrong before that.
-/

set_option autoImplicit false

namespace HtmlTemplate

-- Every value of a run has a property, and the run can fail in one way only.
def Run.Ensures {α : Type} (failure : Error) (holds : α → Prop) (run : Run α) : Prop :=
  ∀ past, match (run.run.run past).1 with
    | .ok a => holds a
    | .error e => e = failure

namespace Run

variable {α β : Type} {failure : Error} {holds : α → Prop} {further : β → Prop}

theorem ensures_pure (a : α) (held : holds a) : Ensures failure holds (pure a) :=
  fun _ => held

theorem ensures_throw : Ensures failure holds (throw failure) :=
  fun _ => rfl

theorem ensures_bind (first : Run α) (next : α → Run β) (start : Ensures failure holds first)
    (rest : ∀ a, holds a → Ensures failure further (next a)) :
    Ensures failure further (first >>= next) := by
  intro past
  have begun := start past
  rw [bind_on]
  generalize first.run.run past = reached at begun ⊢
  obtain ⟨outcome, later⟩ := reached
  cases outcome with
  | ok a => exact rest a begun later
  | error e => exact begun

theorem ensures_map (f : α → β) (run : Run α) (start : Ensures failure holds run)
    (mapped : ∀ a, holds a → further (f a)) : Ensures failure further (f <$> run) := by
  rw [map_eq_pure_bind]
  exact ensures_bind run _ start fun a held => ensures_pure (f a) (mapped a held)

theorem ensures_false (run : Run α) (never : Ensures failure (fun _ => False) run) (past : Trace) :
    (run.account past).outcome = .error failure := by
  have ended := never past
  have opened : (run.account past).outcome = (run.run.run past).1 := rfl
  rw [opened]
  cases outcome : (run.run.run past).1 with
  | ok a =>
      rw [outcome] at ended
      cases ended
  | error e =>
      rw [outcome] at ended
      exact congrArg Except.error ended

theorem ensures_weaken (run : Run α) (start : Ensures failure holds run) (other : α → Prop)
    (weaker : ∀ a, holds a → other a) : Ensures failure other run := by
  intro past
  have ended := start past
  cases outcome : (run.run.run past).1 with
  | ok a =>
      rw [outcome] at ended
      exact weaker a ended
  | error e =>
      rw [outcome] at ended
      exact ended

end Run

-- The first node stands in the second one where it is rendered.
inductive Node.RenderedIn (inner : Node) : Node → Prop
  | here : RenderedIn inner inner
  | child (e : Element Node) (nodes : List Node) (node : Node) :
      e.body = some (.literal (.nodes nodes)) → ¬ bodiless e.tag → node ∈ nodes →
      RenderedIn inner node → RenderedIn inner (.element e)

namespace Registry

def Awaits (registry : Registry) (node : Node) : Prop :=
  ∃ r : Reference, registry.contains r.name ∧ Node.RenderedIn (.reference r) node

-- No template fails, gives anything deferred or comes to an end.
def Endless (registry : Registry) : Prop :=
  ∀ entry ∈ registry.templates, ∀ past params,
    ∃ node, entry.2 past params = .ok node ∧ node.literal ∧ registry.Awaits node

end Registry

theorem awaits_text (registry : Registry) (s : String) : ¬ registry.Awaits (.text s) := by
  rintro ⟨r, _, rendered⟩
  cases rendered

theorem awaits_reference (registry : Registry) (r : Reference)
    (awaits : registry.Awaits (.reference r)) : registry.contains r.name := by
  obtain ⟨_, known, rendered⟩ := awaits
  cases rendered
  exact known

theorem awaits_element (registry : Registry) (e : Element Node)
    (awaits : registry.Awaits (.element e)) :
    ∃ nodes, e.body = some (.literal (.nodes nodes)) ∧ ¬ Node.bodiless e.tag ∧
      ∃ node ∈ nodes, registry.Awaits node := by
  obtain ⟨r, known, rendered⟩ := awaits
  cases rendered with
  | child _ nodes node listed bodied member inside =>
      exact ⟨nodes, listed, bodied, node, member, r, known, inside⟩

section Rendering

variable (registry : Registry) (limit : Nat)

theorem lookup_endless (endless : registry.Endless) (r : Reference) :
    Run.Ensures (.tooDeep limit)
      (fun node => node.literal ∧ (registry.Awaits (.reference r) → registry.Awaits node))
      (registry.lookup r.name r.params) := by
  intro past
  rw [lookup_run]
  cases known : Entries.get? registry.templates r.name with
  | none =>
      refine ⟨rfl, fun awaits => ?_⟩
      have contained := awaits_reference registry r awaits
      rw [Registry.contains, Entries.has, known] at contained
      cases contained
  | some template =>
      obtain ⟨node, gives, given, awaits⟩ :=
        endless _ (Entries.mem_of_get? _ _ _ known) past r.params
      dsimp only at gives ⊢
      rw [gives]
      exact ⟨given, fun _ => awaits⟩

theorem resolve_within_endless (endless : registry.Endless) (left : Nat) (node : Node)
    (given : node.literal) :
    Run.Ensures (.tooDeep limit)
      (fun resolved => ∃ final : Node, final.literal ∧ final.resolved? = some resolved ∧
        (registry.Awaits node → registry.Awaits final))
      (node.resolveWithin registry limit left) := by
  induction left generalizing node with
  | zero =>
      cases node with
      | text s => exact Run.ensures_pure _ ⟨.text s, given, rfl, id⟩
      | element e =>
          rw [resolve_within_final registry limit 0 (.element e) _ given rfl]
          exact Run.ensures_pure _ ⟨.element e, given, rfl, id⟩
      | reference r => exact Run.ensures_throw
  | succ left ih =>
      cases node with
      | text s => exact Run.ensures_pure _ ⟨.text s, given, rfl, id⟩
      | element e =>
          rw [resolve_within_final registry limit (left + 1) (.element e) _ given rfl]
          exact Run.ensures_pure _ ⟨.element e, given, rfl, id⟩
      | reference r =>
          refine Run.ensures_bind _ _ (lookup_endless registry limit endless r) ?_
          rintro between ⟨betweenGiven, handed⟩
          refine Run.ensures_weaken _ (ih between betweenGiven) _ ?_
          rintro resolved ⟨final, finalGiven, plain, further⟩
          exact ⟨final, finalGiven, plain, fun awaits => further (handed awaits)⟩

-- What is asked of the way in which single nodes are rendered: those in which a template would be
-- rendered give no text.
def Exhausts (child : Node → Run String) : Prop :=
  ∀ node, node.literal →
    Run.Ensures (.tooDeep limit) (fun _ => ¬ registry.Awaits node) (child node)

theorem children_exhaust (child : Node → Run String) (exhausts : Exhausts registry limit child)
    (nodes : List Node) (given : Node.allLiteral nodes) :
    Run.Ensures (.tooDeep limit) (fun _ => ∀ node ∈ nodes, ¬ registry.Awaits node)
      (Render.children child nodes) := by
  induction nodes with
  | nil => exact Run.ensures_pure _ (by simp)
  | cons node rest ih =>
      obtain ⟨nodeGiven, restGiven⟩ := (all_literal_cons node rest).mp given
      refine Run.ensures_bind _ _ (exhausts node nodeGiven) fun first nodeDone => ?_
      refine Run.ensures_bind _ _ (ih restGiven) fun others restDone => ?_
      exact Run.ensures_pure _ (List.forall_mem_cons.mpr ⟨nodeDone, restDone⟩)

theorem element_exhausts (child : Node → Run String) (exhausts : Exhausts registry limit child)
    (e : Element Node) (given : (Node.element e).literal) :
    Run.Ensures (.tooDeep limit) (fun _ => ¬ registry.Awaits (.element e))
      (Render.element child e.resolved) := by
  by_cases whole :
      Node.bodiless e.tag ∨ e.body = none ∨ ∃ s, e.body = some (.literal (.text s))
  · rw [(whole_element child e whole).1]
    refine Run.ensures_pure _ fun awaits => ?_
    obtain ⟨nodes, listed, bodied, _⟩ := awaits_element registry e awaits
    rcases whole with single | absent | ⟨s, text⟩
    · exact bodied single
    · rw [listed] at absent
      cases absent
    · rw [listed] at text
      cases text
  · obtain ⟨_, nodes, listed, nodesGiven, written⟩ := parted_element child e given whole
    rw [written]
    refine Run.ensures_map _ _ (children_exhaust registry limit child exhausts nodes nodesGiven) ?_
    intro _ done awaits
    obtain ⟨others, listed', _, node, member, inside⟩ := awaits_element registry e awaits
    obtain rfl : nodes = others := by simpa [listed] using listed'
    exact done node member inside

theorem node_exhausts (endless : registry.Endless) (room : Nat) :
    Exhausts registry limit (Render.node registry limit room) := by
  induction room with
  | zero => exact fun node _ => Run.ensures_throw
  | succ room ih =>
      intro node given
      have found := resolve_within_endless registry limit endless limit node given
      refine Run.ensures_bind _ _ found ?_
      rintro resolved ⟨final, finalGiven, plain, handed⟩
      cases final with
      | text s =>
          cases plain
          exact Run.ensures_pure _ fun awaits => awaits_text registry s (handed awaits)
      | element e =>
          cases plain
          refine Run.ensures_weaken _ (element_exhausts registry limit _ ih e finalGiven) _ ?_
          exact fun _ done awaits => done (handed awaits)
      | reference r => cases plain

end Rendering

theorem endless_templates_too_deep (registry : Registry) (endless : registry.Endless) (limit : Nat)
    (node : Node) (given : node.literal) (awaits : registry.Awaits node) (past : Trace) :
    ((node.render registry limit).account past).outcome = .error (.tooDeep limit) := by
  have exhausted := node_exhausts registry limit endless (limit + 1) node given
  exact Run.ensures_false _ (Run.ensures_weaken _ exhausted _ fun _ done => done awaits) past

def echoEntries : List (String × Template) :=
  [("echo", fun _ params => .ok (.reference ⟨"nest", params⟩)),
    ("nest", fun _ params =>
      .ok (pageOf [.reference ⟨"missing", .null⟩,
        headingOf [.text "a", .reference ⟨"echo", params⟩]]))]

def echoTemplates : Registry :=
  Registry.ofList echoEntries

-- Before the reference there is one that leads nowhere.
def echoPage : Node :=
  pageOf [.reference ⟨"missing", .null⟩, headingOf [.text "b", .reference ⟨"nest", .null⟩]]

theorem heading_awaits (before : Node) (name : String) (params : Json)
    (known : echoTemplates.contains name) :
    echoTemplates.Awaits (headingOf [before, .reference ⟨name, params⟩]) := by
  have bodied : ¬ Node.bodiless (some (.literal "H1")) := by decide +kernel
  exact ⟨_, known, .child _ _ (.reference ⟨name, params⟩) rfl bodied (by simp) .here⟩

theorem page_awaits (before node : Node) (awaits : echoTemplates.Awaits node) :
    echoTemplates.Awaits (pageOf [before, node]) := by
  have bodied : ¬ Node.bodiless none := by decide
  obtain ⟨r, known, rendered⟩ := awaits
  exact ⟨r, known, .child _ _ node rfl bodied (by simp) rendered⟩

theorem echo_page_too_deep :
    echoTemplates.Endless ∧ echoPage.literal ∧ echoTemplates.Awaits echoPage ∧
      ((echoPage.render echoTemplates 5).account []).outcome = .error (.tooDeep 5) := by
  have listed : echoTemplates.templates = echoEntries := rfl
  have endless : echoTemplates.Endless := by
    rw [Registry.Endless, listed]
    simp only [echoEntries, List.forall_mem_cons]
    refine ⟨fun past params => ?_, fun past params => ?_, by simp⟩
    · exact ⟨_, rfl, rfl, _, rfl, .here⟩
    · exact ⟨_, rfl, rfl, page_awaits _ _ (heading_awaits _ _ _ rfl)⟩
  have awaits : echoTemplates.Awaits echoPage := page_awaits _ _ (heading_awaits _ _ _ rfl)
  exact ⟨endless, rfl, awaits,
    endless_templates_too_deep echoTemplates endless 5 echoPage rfl awaits []⟩

end HtmlTemplate
