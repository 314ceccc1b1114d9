import HtmlTemplate.Node.Builder
import HtmlTemplate.Proofs.CallSequence
import HtmlTemplate.Proofs.Literal

/-!
A node with its deferred values given directly: each is replaced, at every depth, by what it
produces in the run that begins after a trace. For a node in which nothing depends on what has run
before, it is the same in all runs.
-/

set_option autoImplicit false

namespace HtmlTemplate

section Fields

variable {α : Type}

def fieldSteady : Option (Value α) → Prop
  | some (.deferred d) => ∀ past other, d.outcome past = d.outcome other
  | _ => True

def fieldSucceeds : Option (Value α) → Prop
  | some (.deferred d) => ∀ past, (d.outcome past).isOk
  | _ => True

-- What a value produces after a trace, given directly. A failure stays as it is.
def Value.direct (past : Trace) : Value α → Value α
  | .literal a => .literal a
  | .deferred d =>
    match d.outcome past with
    | .ok a => .literal a
    | .error _ => .deferred d

end Fields

namespace Attributes

def Steady (attributes : Attributes) : Prop :=
  ∀ entry ∈ attributes.entries, fieldSteady (some entry.2)

def Succeed (attributes : Attributes) : Prop :=
  ∀ entry ∈ attributes.entries, fieldSucceeds (some entry.2)

def directEntries (past : Trace) : List (String × Value String) → List (String × Value String)
  | [] => []
  | (key, value) :: rest =>
    (key, value.direct past) :: directEntries (fieldPast past (some value)) rest

theorem keys_direct_entries (past : Trace) (entries : List (String × Value String)) :
    Entries.keys (directEntries past entries) = Entries.keys entries := by
  induction entries generalizing past with
  | nil => rfl
  | cons entry rest ih => exact congrArg (entry.1 :: ·) (ih _)

def direct (past : Trace) (attributes : Attributes) : Attributes :=
  ⟨directEntries past attributes.entries, by
    rw [keys_direct_entries]
    exact attributes.distinct⟩

end Attributes

def mappingSteady (mapping : Option (Value Attributes)) : Prop :=
  fieldSteady mapping ∧ ∀ past, (fieldGives past Attributes.empty mapping).Steady

def mappingSucceeds (mapping : Option (Value Attributes)) : Prop :=
  fieldSucceeds mapping ∧ ∀ past, (fieldGives past Attributes.empty mapping).Succeed

-- A mapping is produced after one trace, and the values in it from another one on.
def directMapping (past later : Trace) : Option (Value Attributes) → Option (Value Attributes)
  | none => none
  | some (.literal attributes) => some (.literal (attributes.direct later))
  | some (.deferred d) =>
    match d.outcome past with
    | .ok attributes => some (.literal (attributes.direct later))
    | .error _ => some (.deferred d)

namespace Node

mutual
-- No deferred value of a tree depends on what has run before, nor one in what these produce.
def Steady : Node → Prop
  | .text _ => True
  | .reference _ => True
  | .element ⟨tag, attributes, body, comment⟩ =>
    fieldSteady tag ∧ mappingSteady attributes ∧ BodySteady body ∧ fieldSteady comment
def BodySteady : Option (Value (Body Node)) → Prop
  | none => True
  | some (.literal body) => ContentSteady body
  | some (.deferred ⟨_, outcome⟩) =>
    (∀ past other, outcome past = outcome other) ∧ ∀ past, OutcomeSteady (outcome past)
def OutcomeSteady : Except Error (Body Node) → Prop
  | .ok body => ContentSteady body
  | .error _ => True
def ContentSteady : Body Node → Prop
  | .text _ => True
  | .nodes children => AllSteady children
def AllSteady : List Node → Prop
  | [] => True
  | node :: rest => Steady node ∧ AllSteady rest
end

mutual
-- Every deferred value of a tree succeeds whatever has run before, and those in what these produce.
def Succeeds : Node → Prop
  | .text _ => True
  | .reference _ => True
  | .element ⟨tag, attributes, body, comment⟩ =>
    fieldSucceeds tag ∧ mappingSucceeds attributes ∧ BodySucceeds body ∧ fieldSucceeds comment
def BodySucceeds : Option (Value (Body Node)) → Prop
  | none => True
  | some (.literal body) => ContentSucceeds body
  | some (.deferred ⟨_, outcome⟩) => ∀ past, OutcomeSucceeds (outcome past)
def OutcomeSucceeds : Except Error (Body Node) → Prop
  | .ok body => ContentSucceeds body
  | .error _ => False
def ContentSucceeds : Body Node → Prop
  | .text _ => True
  | .nodes children => AllSucceed children
def AllSucceed : List Node → Prop
  | [] => True
  | node :: rest => Succeeds node ∧ AllSucceed rest
end

section Direct

variable (registry : Registry) (limit : Nat)

mutual
-- What is rendered after a trace with room for some levels, with all that is produced given
-- directly. The child nodes follow when the element itself has been resolved.
def directWithin : (room : Nat) → Trace → Node → Node
  | _, _, .text s => .text s
  | _, _, .reference r => .reference r
  | room, past, .element ⟨tag, attributes, body, comment⟩ =>
    let e : Element Node := ⟨tag, attributes, body, comment⟩
    let valued := valuesPast (e.mappingPast past) (e.mappingGiven past)
    .element
      ⟨tag.map (Value.direct past),
        directMapping (e.bodyPast past) (e.mappingPast past) attributes,
        directBody (room - 1) (e.tagPast past) (Stage.past past (e.stages past)) body,
        comment.map (Value.direct valued)⟩
def directBody : (room : Nat) → (past later : Trace) →
    Option (Value (Body Node)) → Option (Value (Body Node))
  | _, _, _, none => none
  | room, _, later, some (.literal body) => some (.literal (directContent room later body))
  | room, past, later, some (.deferred ⟨label, outcome⟩) =>
    some (directOutcome room later ⟨label, outcome⟩ (outcome past))
def directOutcome : (room : Nat) → Trace → Deferred (Body Node) →
    Except Error (Body Node) → Value (Body Node)
  | room, past, _, .ok body => .literal (directContent room past body)
  | _, _, d, .error _ => .deferred d
def directContent : (room : Nat) → Trace → Body Node → Body Node
  | _, _, .text s => .text s
  | room, past, .nodes children => .nodes (directAll room past children)
def directAll : (room : Nat) → Trace → List Node → List Node
  | _, _, [] => []
  | room, past, node :: rest =>
    directWithin room past node ::
      directAll room ((Render.node registry limit room node).account past).trace rest
end

def direct (past : Trace) (node : Node) : Node :=
  node.directWithin registry limit (limit + 1) past

end Direct

end Node

structure Element.Steady (e : Element Node) : Prop where
  tag : fieldSteady e.tag
  mapping : mappingSteady e.attributes
  body : Node.BodySteady e.body
  comment : fieldSteady e.comment

structure Element.Succeeds (e : Element Node) : Prop where
  tag : fieldSucceeds e.tag
  mapping : mappingSucceeds e.attributes
  body : Node.BodySucceeds e.body
  comment : fieldSucceeds e.comment

def Element.directWithin (registry : Registry) (limit room : Nat) (past : Trace)
    (e : Element Node) : Element Node where
  tag := e.tag.map (Value.direct past)
  attributes := directMapping (e.bodyPast past) (e.mappingPast past) e.attributes
  body := Node.directBody registry limit (room - 1) (e.tagPast past)
    (Stage.past past (e.stages past)) e.body
  comment := e.comment.map
    (Value.direct (valuesPast (e.mappingPast past) (e.mappingGiven past)))

theorem element_steady (e : Element Node) (steady : (Node.element e).Steady) : e.Steady := by
  obtain ⟨tag, attributes, body, comment⟩ := e
  simp only [Node.Steady] at steady
  obtain ⟨tagSteady, mappingSteady, bodySteady, commentSteady⟩ := steady
  exact ⟨tagSteady, mappingSteady, bodySteady, commentSteady⟩

theorem element_succeeds (e : Element Node) (succeeds : (Node.element e).Succeeds) :
    e.Succeeds := by
  obtain ⟨tag, attributes, body, comment⟩ := e
  simp only [Node.Succeeds] at succeeds
  obtain ⟨tagSucceeds, mappingSucceeds, bodySucceeds, commentSucceeds⟩ := succeeds
  exact ⟨tagSucceeds, mappingSucceeds, bodySucceeds, commentSucceeds⟩

theorem element_direct (registry : Registry) (limit room : Nat) (past : Trace) (e : Element Node) :
    (Node.element e).directWithin registry limit room past =
      .element (e.directWithin registry limit room past) := by
  obtain ⟨tag, attributes, body, comment⟩ := e
  simp only [Node.directWithin, Element.directWithin]

section Literal

theorem succeeds_ok {α : Type} (d : Deferred α) (past : Trace)
    (succeeds : fieldSucceeds (some (.deferred d))) : ∃ a, d.outcome past = .ok a := by
  have done := succeeds past
  cases made : d.outcome past with
  | ok a => exact ⟨a, rfl⟩
  | error e => simp [made, Except.isOk, Except.toBool] at done

theorem direct_field {α : Type} (absent : α) (field : Option (Value α)) (past : Trace)
    (succeeds : fieldSucceeds field) :
    literalField (field.map (Value.direct past)) ∧
      fieldLiteral absent (field.map (Value.direct past)) = fieldGives past absent field := by
  match field with
  | none => exact ⟨rfl, rfl⟩
  | some (.literal a) => exact ⟨rfl, rfl⟩
  | some (.deferred d) =>
      obtain ⟨a, made⟩ := succeeds_ok d past succeeds
      simp [Value.direct, made, literalField, fieldLiteral, fieldGives]

theorem direct_comment (comment : Option (Value String)) (past : Trace)
    (succeeds : fieldSucceeds comment) :
    (comment.map (Value.direct past)).bind Value.literal? =
      comment.map fun value => fieldGives past "" (some value) := by
  match comment with
  | none => rfl
  | some (.literal text) => rfl
  | some (.deferred d) =>
      obtain ⟨text, made⟩ := succeeds_ok d past succeeds
      simp [Value.direct, made, Value.literal?, fieldGives]

theorem direct_entries (entries : List (String × Value String)) (past : Trace)
    (succeed : ∀ entry ∈ entries, fieldSucceeds (some entry.2)) :
    Attributes.literalEntries (Attributes.directEntries past entries) ∧
      Attributes.literals (Attributes.directEntries past entries) = valuesGiven past entries := by
  induction entries generalizing past with
  | nil => exact ⟨rfl, rfl⟩
  | cons entry rest ih =>
      obtain ⟨key, value⟩ := entry
      obtain ⟨first, others⟩ := List.forall_mem_cons.mp succeed
      obtain ⟨literal, same⟩ := ih (fieldPast past (some value)) others
      cases value with
      | literal text => exact ⟨literal, congrArg ((key, text) :: ·) same⟩
      | deferred d =>
          obtain ⟨text, made⟩ := succeeds_ok d past first
          simp only [Attributes.directEntries, Value.direct, made, valuesGiven, fieldGives]
          exact ⟨literal, congrArg ((key, text) :: ·) same⟩

theorem direct_mapping (mapping : Option (Value Attributes)) (past later : Trace)
    (succeeds : mappingSucceeds mapping) :
    literalMapping (directMapping past later mapping) ∧
      Attributes.literals
          (fieldLiteral Attributes.empty (directMapping past later mapping)).entries =
        valuesGiven later (fieldGives past Attributes.empty mapping).entries := by
  obtain ⟨produced, inside⟩ := succeeds
  match mapping with
  | none => exact ⟨rfl, rfl⟩
  | some (.literal attributes) => exact direct_entries attributes.entries later (inside past)
  | some (.deferred d) =>
      obtain ⟨attributes, made⟩ := succeeds_ok d past produced
      have values := inside past
      simp only [fieldGives, made] at values
      simp only [directMapping, fieldGives, made]
      exact direct_entries attributes.entries later values

theorem content_succeeds (outcome : Except Error (Body Node))
    (succeeds : Node.OutcomeSucceeds outcome) :
    ∃ content, outcome = .ok content ∧ Node.ContentSucceeds content := by
  cases outcome with
  | ok content => exact ⟨content, rfl, succeeds⟩
  | error e => cases succeeds

theorem body_succeeds (body : Option (Value (Body Node))) (past : Trace)
    (succeeds : Node.BodySucceeds body) :
    fieldSucceeds body ∧ Node.ContentSucceeds (fieldGives past .empty body) := by
  match body with
  | none => exact ⟨trivial, trivial⟩
  | some (.literal content) => exact ⟨trivial, succeeds⟩
  | some (.deferred ⟨label, outcome⟩) =>
      constructor
      · intro later
        obtain ⟨content, made, -⟩ := content_succeeds _ (succeeds later)
        exact congrArg Except.isOk made
      · obtain ⟨content, made, inside⟩ := content_succeeds _ (succeeds past)
        simp only [fieldGives, made]
        exact inside

variable (registry : Registry) (limit : Nat)

theorem direct_body (room : Nat) (past later : Trace) (body : Option (Value (Body Node)))
    (succeeds : Node.BodySucceeds body) :
    fieldLiteral .empty (Node.directBody registry limit room past later body) =
      Node.directContent registry limit room later (fieldGives past .empty body) := by
  match body with
  | none => rfl
  | some (.literal content) => rfl
  | some (.deferred ⟨label, outcome⟩) =>
      obtain ⟨content, made, -⟩ := content_succeeds _ (succeeds past)
      simp only [Node.directBody, fieldGives, made]
      rfl

mutual
theorem direct_literal : (room : Nat) → (past : Trace) → (node : Node) → node.Succeeds →
    (node.directWithin registry limit room past).literal
  | _, _, .text s, _ => rfl
  | _, _, .reference r, _ => rfl
  | room, past, .element ⟨tag, attributes, body, comment⟩, succeeds => by
      simp only [Node.Succeeds] at succeeds
      obtain ⟨tagSucceeds, mappingSucceeds, bodySucceeds, commentSucceeds⟩ := succeeds
      simp only [Node.directWithin, Node.literal, Bool.and_eq_true]
      exact ⟨⟨⟨(direct_field "" tag _ tagSucceeds).1,
        (direct_mapping attributes _ _ mappingSucceeds).1⟩,
          direct_body_literal (room - 1) _ _ body bodySucceeds⟩,
            (direct_field "" comment _ commentSucceeds).1⟩
theorem direct_body_literal : (room : Nat) → (past later : Trace) →
    (body : Option (Value (Body Node))) → Node.BodySucceeds body →
    Node.literalBody (Node.directBody registry limit room past later body)
  | _, _, _, none, _ => rfl
  | room, _, later, some (.literal content), succeeds =>
      direct_content_literal room later content succeeds
  | room, past, later, some (.deferred ⟨label, outcome⟩), succeeds =>
      direct_outcome_literal room later ⟨label, outcome⟩ (outcome past) (succeeds past)
theorem direct_outcome_literal : (room : Nat) → (past : Trace) → (d : Deferred (Body Node)) →
    (outcome : Except Error (Body Node)) → Node.OutcomeSucceeds outcome →
    Node.literalBody (some (Node.directOutcome registry limit room past d outcome))
  | room, past, _, .ok content, succeeds => direct_content_literal room past content succeeds
  | _, _, _, .error _, succeeds => by cases succeeds
theorem direct_content_literal : (room : Nat) → (past : Trace) → (content : Body Node) →
    Node.ContentSucceeds content →
    Node.literalBody (some (.literal (Node.directContent registry limit room past content)))
  | _, _, .text _, _ => rfl
  | room, past, .nodes children, succeeds => direct_all_literal room past children succeeds
theorem direct_all_literal : (room : Nat) → (past : Trace) → (nodes : List Node) →
    Node.AllSucceed nodes → Node.allLiteral (Node.directAll registry limit room past nodes)
  | _, _, [], _ => rfl
  | room, past, node :: rest, succeed => by
      obtain ⟨first, others⟩ := succeed
      simp only [Node.directAll, Node.allLiteral, Bool.and_eq_true]
      exact ⟨direct_literal room past node first, direct_all_literal room _ rest others⟩
end

end Literal

section Steady

theorem steady_field {α : Type} (field : Option (Value α)) (past other : Trace)
    (steady : fieldSteady field) :
    field.map (Value.direct past) = field.map (Value.direct other) := by
  match field with
  | none => rfl
  | some (.literal a) => rfl
  | some (.deferred d) => simp only [Option.map_some, Value.direct, steady past other]

theorem steady_entries (entries : List (String × Value String)) (past other : Trace)
    (steady : ∀ entry ∈ entries, fieldSteady (some entry.2)) :
    Attributes.directEntries past entries = Attributes.directEntries other entries := by
  induction entries generalizing past other with
  | nil => rfl
  | cons entry rest ih =>
      obtain ⟨key, value⟩ := entry
      obtain ⟨first, others⟩ := List.forall_mem_cons.mp steady
      have same : value.direct past = value.direct other :=
        Option.some.inj (steady_field (some value) past other first)
      rw [Attributes.directEntries, Attributes.directEntries, same, ih _ _ others]

theorem steady_mapping (mapping : Option (Value Attributes)) (past later other further : Trace)
    (steady : mappingSteady mapping) :
    directMapping past later mapping = directMapping other further mapping := by
  obtain ⟨produced, inside⟩ := steady
  have attributes (given : Attributes) (steady : given.Steady) :
      given.direct later = given.direct further := by
    simp only [Attributes.direct, steady_entries given.entries later further steady]
  match mapping with
  | none => rfl
  | some (.literal given) => rw [directMapping, directMapping, attributes given (inside past)]
  | some (.deferred d) =>
      have values := inside other
      simp only [directMapping, fieldGives, produced past other] at values ⊢
      cases made : d.outcome other with
      | error e => rfl
      | ok given =>
          rw [made] at values
          simp only [attributes given values]

variable (registry registry' : Registry) (limit limit' : Nat)

mutual
theorem steady_direct : (room room' : Nat) → (past past' : Trace) → (node : Node) → node.Steady →
    node.directWithin registry limit room past = node.directWithin registry' limit' room' past'
  | _, _, _, _, .text s, _ => rfl
  | _, _, _, _, .reference r, _ => rfl
  | room, room', past, past', .element ⟨tag, attributes, body, comment⟩, steady => by
      simp only [Node.Steady] at steady
      obtain ⟨tagSteady, mappingSteady, bodySteady, commentSteady⟩ := steady
      simp only [Node.directWithin]
      rw [steady_field tag past past' tagSteady, steady_mapping attributes _ _ _ _ mappingSteady,
        steady_direct_body (room - 1) (room' - 1) _ _ _ _ body bodySteady,
        steady_field comment _ _ commentSteady]
theorem steady_direct_body : (room room' : Nat) → (past later past' later' : Trace) →
    (body : Option (Value (Body Node))) → Node.BodySteady body →
    Node.directBody registry limit room past later body =
      Node.directBody registry' limit' room' past' later' body
  | _, _, _, _, _, _, none, _ => rfl
  | room, room', _, later, _, later', some (.literal content), steady => by
      simp only [Node.directBody]
      rw [steady_direct_content room room' later later' content steady]
  | room, room', past, later, past', later', some (.deferred ⟨label, outcome⟩), steady => by
      simp only [Node.directBody, steady.1 past past']
      exact congrArg some
        (steady_direct_outcome room room' later later' _ (outcome past') (steady.2 past'))
theorem steady_direct_outcome : (room room' : Nat) → (past past' : Trace) →
    (d : Deferred (Body Node)) → (outcome : Except Error (Body Node)) → Node.OutcomeSteady outcome →
    Node.directOutcome registry limit room past d outcome =
      Node.directOutcome registry' limit' room' past' d outcome
  | room, room', past, past', _, .ok content, steady =>
      congrArg Value.literal (steady_direct_content room room' past past' content steady)
  | _, _, _, _, _, .error _, _ => rfl
theorem steady_direct_content : (room room' : Nat) → (past past' : Trace) → (content : Body Node) →
    Node.ContentSteady content →
    Node.directContent registry limit room past content =
      Node.directContent registry' limit' room' past' content
  | _, _, _, _, .text _, _ => rfl
  | room, room', past, past', .nodes children, steady =>
      congrArg Body.nodes (steady_direct_all room room' past past' children steady)
theorem steady_direct_all : (room room' : Nat) → (past past' : Trace) → (nodes : List Node) →
    Node.AllSteady nodes →
    Node.directAll registry limit room past nodes =
      Node.directAll registry' limit' room' past' nodes
  | _, _, _, _, [], _ => rfl
  | room, room', past, past', node :: rest, steady => by
      simp only [Node.directAll]
      rw [steady_direct room room' past past' node steady.1,
        steady_direct_all room room' _ _ rest steady.2]
end

end Steady

end HtmlTemplate
