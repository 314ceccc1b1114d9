import HtmlTemplate.Proofs.DirectNode
import HtmlTemplate.Proofs.PlainText
import HtmlTemplate.Proofs.SameCalls

/-!
Deferred values show nowhere but in their own production. A node in which all of them succeed is
rendered like the node in which each is replaced by what it produces in that run.
-/

set_option autoImplicit false

namespace HtmlTemplate

-- Templates that are functions of their parameters alone, and so are the values in what they give.
structure Registry.Pure (registry : Registry) : Prop where
  timeless : registry.Timeless
  steady : ∀ entry ∈ registry.templates, ∀ params node,
    entry.2 [] params = .ok node → node.Steady

section Fields

variable {α : Type} [Labelled α]

theorem steady_field_stages (field : Option (Value α)) (past other : Trace)
    (steady : fieldSteady field) : fieldStages past field = fieldStages other field := by
  match field with
  | none => rfl
  | some (.literal a) => rfl
  | some (.deferred d) => simp only [fieldStages, steady past other]

omit [Labelled α] in
theorem steady_field_gives (absent : α) (field : Option (Value α)) (past other : Trace)
    (steady : fieldSteady field) :
    fieldGives past absent field = fieldGives other absent field := by
  match field with
  | none => rfl
  | some (.literal a) => rfl
  | some (.deferred d) => simp only [fieldGives, steady past other]

theorem field_passes (field : Option (Value α)) (past : Trace) (succeeds : fieldSucceeds field) :
    Stage.firstFailure (fieldStages past field) = none := by
  match field with
  | none => rfl
  | some (.literal a) => rfl
  | some (.deferred d) =>
      obtain ⟨a, made⟩ := succeeds_ok d past succeeds
      simp [fieldStages, made, callStage, Stage.firstFailure, Stage.failure?]

theorem field_stages_quiet (field : Option (Value α)) (past : Trace) :
    lookups (Stage.events (fieldStages past field)) = [] := by
  match field with
  | none => rfl
  | some (.literal a) => rfl
  | some (.deferred d) =>
      simp [lookups, Stage.events, fieldStages, call_stage_event, Event.isLookup]

end Fields

theorem steady_values (entries : List (String × Value String)) (past other : Trace)
    (steady : ∀ entry ∈ entries, fieldSteady (some entry.2)) :
    valueStages past entries = valueStages other entries ∧
      valuesGiven past entries = valuesGiven other entries := by
  induction entries generalizing past other with
  | nil => exact ⟨rfl, rfl⟩
  | cons entry rest ih =>
      obtain ⟨key, value⟩ := entry
      obtain ⟨first, others⟩ := List.forall_mem_cons.mp steady
      obtain ⟨stages, given⟩ :=
        ih (fieldPast past (some value)) (fieldPast other (some value)) others
      constructor
      · rw [valueStages, valueStages, stages, steady_field_stages _ past other first]
      · rw [valuesGiven, valuesGiven, given, steady_field_gives "" _ past other first]

theorem values_pass (entries : List (String × Value String)) (past : Trace)
    (succeed : ∀ entry ∈ entries, fieldSucceeds (some entry.2)) :
    Stage.firstFailure (valueStages past entries) = none := by
  induction entries generalizing past with
  | nil => rfl
  | cons entry rest ih =>
      obtain ⟨first, others⟩ := List.forall_mem_cons.mp succeed
      rw [valueStages, Stage.first_failure_append, field_passes _ _ first, ih _ others]
      rfl

theorem lookups_append (stages others : List Stage) :
    lookups (Stage.events (stages ++ others)) =
      lookups (Stage.events stages) ++ lookups (Stage.events others) := by
  simp [lookups, Stage.events]

theorem value_stages_quiet (entries : List (String × Value String)) (past : Trace) :
    lookups (Stage.events (valueStages past entries)) = [] := by
  induction entries generalizing past with
  | nil => rfl
  | cons entry rest ih => rw [valueStages, lookups_append, field_stages_quiet, ih, List.append_nil]

theorem body_steady (body : Option (Value (Body Node))) (past : Trace)
    (steady : Node.BodySteady body) :
    fieldSteady body ∧ Node.ContentSteady (fieldGives past .empty body) := by
  match body with
  | none => exact ⟨trivial, trivial⟩
  | some (.literal content) => exact ⟨trivial, steady⟩
  | some (.deferred ⟨label, outcome⟩) =>
      obtain ⟨same, inside⟩ := steady
      have held := inside past
      refine ⟨same, ?_⟩
      cases made : outcome past with
      | ok content =>
          rw [made] at held
          simp only [fieldGives, made]
          exact held
      | error e =>
          simp only [fieldGives, made]
          trivial

namespace Element

theorem steady_stages (e : Element Node) (past other : Trace) (steady : e.Steady) :
    e.stages past = e.stages other ∧ e.given past = e.given other := by
  have bodySteady := (body_steady e.body past steady.body).1
  have mapping : e.mappingGiven past = e.mappingGiven other := by
    rw [mappingGiven, mappingGiven,
      steady_field_gives _ _ (e.bodyPast past) (e.bodyPast other) steady.mapping.1]
  obtain ⟨stages, given⟩ := steady_values (e.mappingGiven other) (e.mappingPast past)
    (e.mappingPast other) (steady.mapping.2 _)
  constructor
  · rw [Element.stages, Element.stages, mapping, stages,
      steady_field_stages e.tag past other steady.tag,
      steady_field_stages e.body (e.tagPast past) (e.tagPast other) bodySteady,
      steady_field_stages e.attributes (e.bodyPast past) (e.bodyPast other) steady.mapping.1,
      steady_field_stages e.comment _ (valuesPast (e.mappingPast other) (e.mappingGiven other))
        steady.comment]
  · have commented (trace trace' : Trace) :
        (e.comment.map fun value => fieldGives trace "" (some value)) =
          e.comment.map fun value => fieldGives trace' "" (some value) := by
      have settled := steady.comment
      cases held : e.comment with
      | none => rfl
      | some value =>
          rw [held] at settled
          exact congrArg some (steady_field_gives "" (some value) trace trace' settled)
    rw [Element.given, Element.given, mapping, given,
      steady_field_gives "" e.tag past other steady.tag,
      steady_field_gives .empty e.body (e.tagPast past) (e.tagPast other) bodySteady,
      commented _ (valuesPast (e.mappingPast other) (e.mappingGiven other))]

theorem stages_pass (e : Element Node) (past : Trace) (succeeds : e.Succeeds) :
    Stage.firstFailure (e.stages past) = none := by
  have bodySucceeds := (body_succeeds e.body past succeeds.body).1
  have values := values_pass (e.mappingGiven past) (e.mappingPast past) (succeeds.mapping.2 _)
  simp only [Element.stages, Stage.first_failure_append, field_passes e.tag _ succeeds.tag,
    field_passes e.body _ bodySucceeds, field_passes e.attributes _ succeeds.mapping.1, values,
    field_passes e.comment _ succeeds.comment, Option.or_none]

theorem stages_quiet (e : Element Node) (past : Trace) :
    lookups (Stage.events (e.stages past)) = [] := by
  simp only [Element.stages, lookups_append, field_stages_quiet, value_stages_quiet,
    List.append_nil]

end Element

section Rendering

variable (registry : Registry) (limit : Nat)

theorem deferred_resolve (e : Element Node) (past : Trace) (succeeds : e.Succeeds) :
    e.resolve.run.run past = (.ok (e.given past), Stage.past past (e.stages past)) := by
  have passed := e.stages_pass past succeeds
  rw [follows_element e past, passed, Stage.reached_whole _ passed]
  rfl

theorem direct_resolve (e : Element Node) (room : Nat) (past : Trace)
    (succeeds : (Node.element e).Succeeds) :
    (e.directWithin registry limit room past).resolve =
      pure { e.given past with
        body := Node.directContent registry limit (room - 1) (Stage.past past (e.stages past))
          (e.given past).body } := by
  have fields := element_succeeds e succeeds
  have literal : (Node.element (e.directWithin registry limit room past)).literal := by
    rw [← element_direct]
    exact direct_literal registry limit room past _ succeeds
  rw [element_resolve_literal _ literal, Element.resolved, Element.directWithin]
  dsimp only
  rw [(direct_field "" e.tag past fields.tag).2,
    (direct_mapping e.attributes _ _ fields.mapping).2,
    direct_body registry limit _ _ _ e.body fields.body,
    direct_comment e.comment _ fields.comment]
  rfl

-- What is rendered after a trace in place of a node: the same one, if nothing in it depends on what
-- has run before, or what it is in this run.
def Stands (room : Nat) (past : Trace) (node other : Node) : Prop :=
  node.Steady ∧ other = node ∨
    node.Succeeds ∧ other = node.directWithin registry limit room past

-- The same for nodes that are rendered one after the other.
inductive AllStand (room : Nat) : Trace → List Node → List Node → Prop
  | nil (past : Trace) : AllStand room past [] []
  | cons (past : Trace) (node other : Node) (rest others : List Node) :
      Stands registry limit room past node other →
      AllStand room ((Render.node registry limit room node).account past).trace rest others →
      AllStand room past (node :: rest) (other :: others)

def BodyStands (room : Nat) (past : Trace) : Body Node → Body Node → Prop
  | .text s, .text t => s = t
  | .nodes nodes, .nodes others => AllStand registry limit room past nodes others
  | _, _ => False

structure ElementStands (room : Nat) (past : Trace) (e other : ResolvedElement) : Prop where
  tag : other.tag = e.tag
  attributes : other.attributes = e.attributes
  comment : other.comment = e.comment
  body : BodyStands registry limit room past e.body other.body

def ResolvedStands (room : Nat) (past : Trace) : Resolved → Resolved → Prop
  | .text s, .text t => s = t
  | .element e, .element other => ElementStands registry limit room past e other
  | _, _ => False

theorem body_stands_same (room : Nat) (past : Trace) (body : Body Node)
    (steady : Node.ContentSteady body) : BodyStands registry limit room past body body := by
  cases body with
  | text s => rfl
  | nodes nodes =>
      change AllStand registry limit room past nodes nodes
      induction nodes generalizing past with
      | nil => exact .nil past
      | cons node rest ih => exact .cons _ _ _ _ _ (.inl ⟨steady.1, rfl⟩) (ih _ steady.2)

theorem body_stands_direct (room : Nat) (past : Trace) (body : Body Node)
    (succeeds : Node.ContentSucceeds body) :
    BodyStands registry limit room past body
      (Node.directContent registry limit room past body) := by
  cases body with
  | text s => rfl
  | nodes nodes =>
      change AllStand registry limit room past nodes (Node.directAll registry limit room past nodes)
      induction nodes generalizing past with
      | nil => exact .nil past
      | cons node rest ih => exact .cons _ _ _ _ _ (.inr ⟨succeeds.1, rfl⟩) (ih _ succeeds.2)

open Run (Alike)

theorem target_steady (pure : registry.Pure) (r : Reference) (node : Node)
    (found : registry.target r = .ok node) : node.Steady := by
  rw [Registry.target] at found
  cases known : Entries.get? registry.templates r.name with
  | none =>
      rw [known] at found
      cases found
      trivial
  | some template =>
      rw [known] at found
      exact pure.steady _ (Entries.mem_of_get? _ _ _ known) r.params node found

theorem follows_alike {α : Type} (related : α → α → Prop) (run : Run α) (past : Trace)
    (stages : List Stage) (a : α) (same : related a a)
    (follows : ∀ past, run.Follows past stages a) : Alike related past run run := by
  intro other
  refine ⟨(Stage.events (Stage.reached stages)).reverse,
    (Stage.events (Stage.reached stages)).reverse, ?_, ?_, rfl, ?_⟩
  · rw [follows past]
    rfl
  · rw [follows other]
    rfl
  · rw [follows past, follows other]
    cases Stage.firstFailure stages with
    | none => exact same
    | some e => rfl

theorem element_resolve_alike (room left : Nat) (later past : Trace) (e : Element Node)
    (steady : (Node.element e).Steady) :
    Alike (ResolvedStands registry limit room later) past
      (Node.resolveWithin registry limit left (.element e))
      (Node.resolveWithin registry limit left (.element e)) := by
  have fields := element_steady e steady
  rw [resolve_within_element]
  refine Run.alike_map (ElementStands registry limit room later) _ past _ _ _ _ ?_
    fun _ _ same => same
  refine follows_alike _ _ past (e.stages past) (e.given past) ⟨rfl, rfl, rfl, ?_⟩ fun other => ?_
  · exact body_stands_same registry limit room later _
      (body_steady e.body (e.tagPast past) fields.body).2
  · obtain ⟨stages, given⟩ := e.steady_stages past other fields
    rw [stages, given]
    exact follows_element e other

theorem steady_resolve_alike (pure : registry.Pure) (room left : Nat) (later past : Trace)
    (node : Node) (steady : node.Steady) :
    Alike (ResolvedStands registry limit room later) past
      (node.resolveWithin registry limit left) (node.resolveWithin registry limit left) := by
  induction left generalizing past node with
  | zero =>
      cases node with
      | text s => exact Run.alike_pure _ past _ _ rfl
      | element e => exact element_resolve_alike registry limit room 0 later past e steady
      | reference r => exact Run.alike_throw _ past _
  | succ left ih =>
      cases node with
      | text s => exact Run.alike_pure _ past _ _ rfl
      | element e => exact element_resolve_alike registry limit room _ later past e steady
      | reference r =>
          refine Run.alike_bind _ _ past _ _ _ _ (lookup_alike registry pure.timeless r past) ?_
          rintro _ given - ⟨rfl, found⟩
          exact ih _ given (target_steady registry pure r given found)

theorem direct_resolve_alike (room left : Nat) (past : Trace) (e : Element Node)
    (succeeds : (Node.element e).Succeeds) :
    Alike (ResolvedStands registry limit room
        ((Node.resolveWithin registry limit left (.element e)).run.run past).2) past
      (Node.resolveWithin registry limit left (.element e))
      (Node.resolveWithin registry limit left
        ((Node.element e).directWithin registry limit (room + 1) past)) := by
  have fields := element_succeeds e succeeds
  have ran : (Node.resolveWithin registry limit left (.element e)).run.run past =
      (.ok (.element (e.given past)), Stage.past past (e.stages past)) := by
    rw [resolve_within_element]
    exact (Run.map_gives _ _ _ _ _).mpr ⟨_, deferred_resolve e past fields, rfl⟩
  intro other
  rw [ran, element_direct, resolve_within_element, direct_resolve registry limit e _ past succeeds]
  refine ⟨(Stage.events (e.stages past)).reverse, [], rfl, rfl, ?_, rfl, rfl, rfl, ?_⟩
  · have quiet := e.stages_quiet past
    simp only [lookups, List.filter_reverse] at quiet ⊢
    rw [quiet]
    rfl
  · exact body_stands_direct registry limit room _ _
      (body_succeeds e.body (e.tagPast past) fields.body).2

theorem resolve_alike (pure : registry.Pure) (room left : Nat) (past : Trace) (node other : Node)
    (stands : Stands registry limit (room + 1) past node other) :
    Alike (ResolvedStands registry limit room
        ((node.resolveWithin registry limit left).run.run past).2) past
      (node.resolveWithin registry limit left) (other.resolveWithin registry limit left) := by
  have same (steady : node.Steady) :=
    steady_resolve_alike registry limit pure room left
      ((node.resolveWithin registry limit left).run.run past).2 past node steady
  rcases stands with ⟨steady, rfl⟩ | ⟨succeeds, rfl⟩
  · exact same steady
  · cases node with
    | text s => exact same trivial
    | reference r => exact same trivial
    | element e => exact direct_resolve_alike registry limit room left past e succeeds

section Children

variable (room : Nat)
    (alike : ∀ past node other, Stands registry limit room past node other →
      Alike Eq past (Render.node registry limit room node) (Render.node registry limit room other))

include alike

theorem children_alike (past : Trace) (nodes others : List Node)
    (stand : AllStand registry limit room past nodes others) :
    Alike Eq past (Render.children (Render.node registry limit room) nodes)
      (Render.children (Render.node registry limit room) others) := by
  induction stand with
  | nil past => exact Run.alike_pure Eq past _ _ rfl
  | cons past node other rest others stands _ ih =>
      refine Run.alike_bind Eq Eq past _ _ _ _ (alike past node other stands) ?_
      rintro first _ - rfl
      refine Run.alike_bind Eq Eq _ _ _ _ _ ih ?_
      rintro texts _ - rfl
      exact Run.alike_pure Eq _ _ _ rfl

theorem body_alike (past : Trace) (body other : Body Node)
    (stands : BodyStands registry limit room past body other) :
    Alike Eq past (Render.body (Render.node registry limit room) body)
      (Render.body (Render.node registry limit room) other) := by
  cases body with
  | text s =>
      cases other with
      | text t => exact Run.alike_pure Eq past s t stands
      | nodes others => cases stands
  | nodes nodes =>
      cases other with
      | text t => cases stands
      | nodes others => exact children_alike registry limit room alike past nodes others stands

theorem element_alike (past : Trace) (e other : ResolvedElement)
    (stands : ElementStands registry limit room past e other) :
    Alike Eq past (Render.element (Render.node registry limit room) e)
      (Render.element (Render.node registry limit room) other) := by
  obtain ⟨_, _, body, _⟩ := e
  obtain ⟨tag, attributes, body', comment⟩ := other
  obtain ⟨rfl, rfl, rfl, bodies⟩ := stands
  by_cases single : tag.any Render.isSelfClosing
  · rw [element_bodiless _ ⟨tag, attributes, body, comment⟩ "" single,
      element_bodiless _ ⟨tag, attributes, body', comment⟩ "" single]
    exact Run.alike_pure Eq past _ _ rfl
  · rw [element_maps_body _ ⟨tag, attributes, body, comment⟩ single,
      element_maps_body _ ⟨tag, attributes, body', comment⟩ single]
    refine Run.alike_map Eq Eq past _ _ _ _
      (body_alike registry limit room alike past body body' bodies) ?_
    rintro content _ rfl
    rfl

end Children

theorem node_alike (pure : registry.Pure) (room : Nat) (past : Trace) (node other : Node)
    (stands : Stands registry limit room past node other) :
    Alike Eq past (Render.node registry limit room node)
      (Render.node registry limit room other) := by
  induction room generalizing past node other with
  | zero => exact Run.alike_throw Eq past _
  | succ room ih =>
      refine Run.alike_bind _ Eq past _ _ _ _
        (resolve_alike registry limit pure room limit past node other stands) ?_
      intro resolved resolved' _ same
      cases resolved with
      | text s =>
          cases resolved' with
          | text t => exact Run.alike_pure Eq _ s t same
          | element e => cases same
      | element e =>
          cases resolved' with
          | text t => cases same
          | element e' => exact element_alike registry limit room ih _ e e' same

end Rendering

theorem deferred_values_transparent (registry : Registry) (limit : Nat) (node : Node)
    (pure : registry.Pure) (succeeds : node.Succeeds) (past : Trace) :
    let direct := node.direct registry limit past
    let resolved := (node.resolve registry limit).account past
    direct.literal ∧
      (∀ other,
        let first := (node.render registry limit).account past
        let second := (direct.render registry limit).account other
        second.outcome = first.outcome ∧ lookups second.events = lookups first.events) ∧
      (∀ e, node = .element e → ∃ given : ResolvedElement,
        resolved.outcome = .ok (.element given) ∧
        ∀ other, ((direct.resolve registry limit).account other).outcome =
          .ok (.element { given with
            body := Node.directContent registry limit limit resolved.trace given.body })) ∧
      (node.Steady → ∀ registry' limit' past', node.direct registry' limit' past' = direct) := by
  intro direct resolved
  refine ⟨direct_literal registry limit _ past node succeeds, ?_, ?_, ?_⟩
  · intro other first second
    have alike := node_alike registry limit pure (limit + 1) past node direct
      (.inr ⟨succeeds, rfl⟩)
    obtain ⟨outcome, calls⟩ := Run.alike_account past _ _ alike other
    exact ⟨outcome.symm, calls.symm⟩
  · rintro e rfl
    have fields := element_succeeds e succeeds
    have ran : ((Node.element e).resolve registry limit).run.run past =
        (.ok (.element (e.given past)), Stage.past past (e.stages past)) := by
      rw [Node.resolve, resolve_within_element]
      exact (Run.map_gives _ _ _ _ _).mpr ⟨_, deferred_resolve e past fields, rfl⟩
    have reached : resolved = ((Node.element e).resolve registry limit).account past := rfl
    rw [Run.account_on, ran] at reached
    rw [reached]
    refine ⟨e.given past, rfl, fun other => ?_⟩
    have given : direct = .element (e.directWithin registry limit (limit + 1) past) :=
      element_direct registry limit _ past e
    rw [given, Node.resolve, resolve_within_element,
      direct_resolve registry limit e _ past succeeds]
    rfl
  · intro steady registry' limit' past'
    exact steady_direct registry' registry limit' limit _ _ past' past node steady

def produced {α : Type} (label : String) (a : α) : Value α :=
  .deferred (.fixed (some label) (.ok a))

def stampEntries : List (String × Template) :=
  [("stamp", fun _ _ => .ok (.element
    ⟨some (produced "rule" "hr"), some (.literal Attributes.empty), none, none⟩))]

def stampTemplates : Registry :=
  Registry.ofList stampEntries

def deferredNote : Node :=
  .element ⟨none, none, some (produced "words" (.text "b")), none⟩

def directNote : Node :=
  .element ⟨none, none, some (.literal (.text "b")), none⟩

-- The attribute is set on top of a mapping that is yet to be produced, with a deferred value in it.
-- The comment depends on whether anything has run before it.
def deferredCard : Element Node :=
  let mapping := Attributes.empty.set "id" (produced "id" "a")
  let body : Body Node := .nodes [deferredNote, .reference ⟨"stamp", .null⟩]
  let comment : Deferred String :=
    ⟨some "comment", fun past => .ok (if past.isEmpty then "first" else "later")⟩
  let card : Element Node :=
    ⟨some (produced "tag" "P"), some (produced "mapping" mapping), some (produced "body" body),
      some (.deferred comment)⟩
  card.attr "lang" "en"

def directCard : Element Node :=
  let body : Body Node := .nodes [directNote, .reference ⟨"stamp", .null⟩]
  ⟨some (.literal "P"), some (.literal (Attributes.ofList [("id", "a"), ("lang", "en")])),
    some (.literal body), some (.literal "later")⟩

theorem deferred_card_transparent :
    stampTemplates.Pure ∧ (Node.element deferredCard).Succeeds ∧
      (Node.element deferredCard).direct stampTemplates 1 [] = .element directCard ∧
      (let card := ((Node.element deferredCard).render stampTemplates 1).account []
      card.outcome = .ok "<!--later--><p id=\"a\" lang=\"en\">b<hr/></p>" ∧
        lookups card.events = [.called "stamp" .null]) ∧
      (∃ given : ResolvedElement,
        let resolved := ((Node.element deferredCard).resolve stampTemplates 1).account []
        resolved.outcome = .ok (.element given) ∧
          (((Node.element directCard).resolve stampTemplates 1).account []).outcome =
            .ok (.element { given with
              body := Node.directContent stampTemplates 1 1 resolved.trace given.body })) ∧
      deferredNote.Steady ∧ deferredNote.Succeeds ∧
      ∀ registry limit past, deferredNote.direct registry limit past = directNote := by
  have listed : stampTemplates.templates = stampEntries := rfl
  have pure : stampTemplates.Pure := by
    refine ⟨?_, ?_⟩
    · simp [Registry.Timeless, listed, stampEntries]
    · rw [listed]
      refine List.forall_mem_singleton.mpr fun params node given => ?_
      cases given
      exact ⟨fun _ _ => rfl, ⟨trivial, nofun⟩, trivial, trivial⟩
  have noteSucceeds : deferredNote.Succeeds :=
    ⟨trivial, ⟨trivial, nofun⟩, fun _ => trivial, trivial⟩
  have noteSteady : deferredNote.Steady :=
    ⟨trivial, ⟨trivial, nofun⟩, ⟨fun _ _ => rfl, fun _ => trivial⟩, trivial⟩
  have succeeds : (Node.element deferredCard).Succeeds := by
    refine ⟨fun _ => rfl, ⟨fun _ => rfl, fun _ => ?_⟩, fun _ => ?_, fun _ => rfl⟩
    · exact List.forall_mem_cons.mpr ⟨fun _ => rfl, List.forall_mem_singleton.mpr trivial⟩
    · exact ⟨noteSucceeds, trivial, trivial⟩
  have replaced : (Node.element deferredCard).direct stampTemplates 1 [] = .element directCard :=
    rfl
  obtain ⟨-, same, elements, -⟩ :=
    deferred_values_transparent stampTemplates 1 (.element deferredCard) pure succeeds []
  rw [replaced] at same elements
  obtain ⟨outcome, calls⟩ := same []
  obtain ⟨given, resolved, direct⟩ := elements deferredCard rfl
  obtain ⟨-, -, -, alone⟩ :=
    deferred_values_transparent stampTemplates 1 deferredNote pure noteSucceeds []
  refine ⟨pure, succeeds, replaced, ⟨?_, ?_⟩, ⟨given, resolved, direct []⟩, noteSteady,
    noteSucceeds, alone noteSteady⟩
  · rw [← outcome]
    rfl
  · rw [← calls]
    rfl

end HtmlTemplate
