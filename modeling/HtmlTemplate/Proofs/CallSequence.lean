import HtmlTemplate.Render

/-!
The calls of rendering in their order: for every node its templates one after the other, then the
deferred fields of the element, and only then its children. What is too deep is marked in it; up to
such a mark the sequence is the same for all limits.
-/

set_option autoImplicit false

namespace HtmlTemplate

class Labelled (α : Type) where
  labels : α → List (Option String)

instance : Labelled String := ⟨fun _ => []⟩

def fieldLabels {α : Type} [Labelled α] : Option (Value α) → List (Option String)
  | none => []
  | some (.literal a) => Labelled.labels a
  | some (.deferred d) => [d.label]

def entryLabels (entries : List (String × Value String)) : List (Option String) :=
  entries.flatMap fun entry => fieldLabels (some entry.2)

instance : Labelled Attributes := ⟨fun attributes => entryLabels attributes.entries⟩

namespace Node

mutual
def labels : Node → List (Option String)
  | .text _ => []
  | .reference _ => []
  | .element ⟨tag, attributes, body, comment⟩ =>
    fieldLabels tag ++ bodyLabels body ++ fieldLabels attributes ++ fieldLabels comment
def bodyLabels : Option (Value (Body Node)) → List (Option String)
  | some (.literal (.nodes children)) => labelsOf children
  | some (.deferred d) => [d.label]
  | _ => []
def labelsOf : List Node → List (Option String)
  | [] => []
  | node :: rest => labels node ++ labelsOf rest
end

end Node

def Body.children : Body Node → List Node
  | .text _ => []
  | .nodes children => children

instance : Labelled (Body Node) := ⟨fun body => Node.labelsOf body.children⟩

instance : Labelled Node := ⟨Node.labels⟩

-- A call with its failure, if it has one, and the labels in what it gives otherwise, or a place that
-- is nested too deep.
inductive Stage where
  | call (event : Event) (failure : Option Error) (given : List (Option String))
  | tooDeep (limit : Nat)

namespace Stage

def event? : Stage → Option Event
  | .call event _ _ => some event
  | .tooDeep _ => none

def failure? : Stage → Option Error
  | .call _ failure _ => failure
  | .tooDeep limit => some (.tooDeep limit)

def given : Stage → List (Option String)
  | .call _ _ given => given
  | .tooDeep _ => []

def events (stages : List Stage) : List Event :=
  stages.filterMap event?

-- The stages up to the first one that fails, with that one.
def reached : List Stage → List Stage
  | [] => []
  | stage :: rest => if stage.failure?.isSome then [stage] else stage :: reached rest

def firstFailure (stages : List Stage) : Option Error :=
  stages.findSome? failure?

def past (trace : Trace) (stages : List Stage) : Trace :=
  (events stages).reverse ++ trace

theorem past_append (trace : Trace) (stages others : List Stage) :
    past trace (stages ++ others) = past (past trace stages) others := by
  simp [past, events]

theorem first_failure_append (stages others : List Stage) :
    firstFailure (stages ++ others) = (firstFailure stages).or (firstFailure others) := by
  simp [firstFailure, List.findSome?_append]

theorem reached_whole (stages : List Stage) (passed : firstFailure stages = none) :
    reached stages = stages := by
  induction stages with
  | nil => rfl
  | cons stage rest ih =>
      simp only [firstFailure, List.findSome?_cons] at passed ih
      cases failed : stage.failure? with
      | some e => simp [failed] at passed
      | none => simpa [reached, failed] using ih (by simpa [failed] using passed)

theorem reached_append (stages others : List Stage) :
    reached (stages ++ others) =
      if (firstFailure stages).isSome then reached stages else stages ++ reached others := by
  induction stages with
  | nil => rfl
  | cons stage rest ih =>
      cases failed : stage.failure? with
      | some e => simp [reached, firstFailure, failed]
      | none =>
          simp only [firstFailure] at ih
          by_cases later : (rest.findSome? failure?).isSome = true <;>
            simp [reached, firstFailure, failed, ih, later]

def told (stage : Stage) : Option Event × Option Error :=
  (stage.event?, stage.failure?)

theorem first_failure_told (stages others : List Stage) (same : others.map told = stages.map told) :
    firstFailure others = firstFailure stages := by
  have seen (list : List Stage) : firstFailure list = (list.map told).findSome? Prod.snd := by
    rw [List.findSome?_map]
    rfl
  rw [seen, seen, same]

theorem reached_told (stages others : List Stage) (same : others.map told = stages.map told) :
    (reached others).map told = (reached stages).map told := by
  induction stages generalizing others with
  | nil => rw [List.map_eq_nil_iff.mp same]
  | cons stage rest ih =>
      obtain ⟨other, more, rfl, first, behind⟩ := List.map_eq_cons_iff.mp same
      have failure : other.failure? = stage.failure? := congrArg Prod.snd first
      simp only [reached, failure]
      split
      · simp [first]
      · simp [first, ih more behind]

theorem events_told (stages others : List Stage) (same : others.map told = stages.map told) :
    events others = events stages := by
  have seen (list : List Stage) : events list = (list.map told).filterMap Prod.fst := by
    rw [List.filterMap_map]
    rfl
  rw [seen, seen, same]

end Stage

open Stage (firstFailure reached)

def callStage {α : Type} [Labelled α] (event : Event) : Except Error α → Stage
  | .ok a => .call event none (Labelled.labels a)
  | .error e => .call event (some e) []

section Fields

variable {α : Type}

-- A deferred field is one call, every other field none.
def fieldStages [Labelled α] (trace : Trace) : Option (Value α) → List Stage
  | some (.deferred d) => [callStage (.produced d.label) (d.outcome trace)]
  | _ => []

def fieldPast (trace : Trace) : Option (Value α) → Trace
  | some (.deferred d) => .produced d.label :: trace
  | _ => trace

-- What a field gives, deferred or not, and what it is taken for if it is absent.
def fieldGives (trace : Trace) (absent : α) : Option (Value α) → α
  | some (.literal a) => a
  | some (.deferred d) =>
    match d.outcome trace with
    | .ok a => a
    | .error _ => absent
  | none => absent

theorem call_stage_event [Labelled α] (event : Event) (outcome : Except Error α) :
    (callStage event outcome).event? = some event := by
  cases outcome <;> rfl

theorem past_call [Labelled α] (trace : Trace) (event : Event) (outcome : Except Error α)
    (stages : List Stage) :
    Stage.past trace (callStage event outcome :: stages) = Stage.past (event :: trace) stages := by
  simp [Stage.past, Stage.events, call_stage_event]

theorem past_field [Labelled α] (trace : Trace) (field : Option (Value α)) :
    Stage.past trace (fieldStages trace field) = fieldPast trace field := by
  match field with
  | none => rfl
  | some (.literal a) => rfl
  | some (.deferred d) => exact past_call _ _ _ []

end Fields

def valueStages (trace : Trace) : List (String × Value String) → List Stage
  | [] => []
  | (_, value) :: rest =>
    fieldStages trace (some value) ++ valueStages (fieldPast trace (some value)) rest

def valuesPast (trace : Trace) : List (String × Value String) → Trace
  | [] => trace
  | (_, value) :: rest => valuesPast (fieldPast trace (some value)) rest

def valuesGiven (trace : Trace) : List (String × Value String) → List (String × String)
  | [] => []
  | (key, value) :: rest =>
    (key, fieldGives trace "" (some value)) :: valuesGiven (fieldPast trace (some value)) rest

theorem past_values (trace : Trace) (entries : List (String × Value String)) :
    Stage.past trace (valueStages trace entries) = valuesPast trace entries := by
  induction entries generalizing trace with
  | nil => rfl
  | cons entry rest ih =>
      obtain ⟨key, value⟩ := entry
      rw [valueStages, Stage.past_append, past_field, ih]
      rfl

namespace Element

variable (e : Element Node) (trace : Trace)

def tagPast : Trace := fieldPast trace e.tag

def bodyPast : Trace := fieldPast (e.tagPast trace) e.body

def mappingPast : Trace := fieldPast (e.bodyPast trace) e.attributes

def mappingGiven : List (String × Value String) :=
  (fieldGives (e.bodyPast trace) Attributes.empty e.attributes).entries

def stages : List Stage :=
  fieldStages trace e.tag ++ fieldStages (e.tagPast trace) e.body ++
    fieldStages (e.bodyPast trace) e.attributes ++
    valueStages (e.mappingPast trace) (e.mappingGiven trace) ++
    fieldStages (valuesPast (e.mappingPast trace) (e.mappingGiven trace)) e.comment

-- The children that are rendered. A self-closing element has none.
def renderedChildren : List Node :=
  if (normalizeTag (fieldGives trace "" e.tag)).any Render.isSelfClosing then []
  else (fieldGives (e.tagPast trace) .empty e.body).children

end Element

namespace Node

-- The templates that are called for a node one after the other, and the element that the last one
-- gives, if it is one.
def chain (registry : Registry) (limit : Nat) :
    (left : Nat) → Trace → Node → List Stage × Option (Element Node)
  | _, _, .text _ => ([], none)
  | _, _, .element e => ([], some e)
  | 0, _, .reference _ => ([.tooDeep limit], none)
  | left + 1, trace, .reference ⟨name, params⟩ =>
    match Entries.get? registry.templates name with
    | none => ([.call (.missed name params) none []], none)
    | some template =>
      let event := Event.called name params
      let stage := callStage event (template trace params)
      match template trace params with
      | .error _ => ([stage], none)
      | .ok node =>
        let (stages, found) := chain registry limit left (event :: trace) node
        (stage :: stages, found)

def stagesOf (single : Trace → Node → List Stage) (trace : Trace) : List Node → List Stage
  | [] => []
  | node :: rest =>
    let first := single trace node
    first ++ stagesOf single (Stage.past trace first) rest

-- All stages of a node with room for `room` levels.
def stagesWithin (registry : Registry) (limit : Nat) : (room : Nat) → Trace → Node → List Stage
  | 0, _, _ => [.tooDeep limit]
  | room + 1, trace, node =>
    let (calls, found) := node.chain registry limit limit trace
    calls ++
      match found with
      | none => []
      | some e =>
        let past := Stage.past trace calls
        e.stages past ++ stagesOf (stagesWithin registry limit room)
          (Stage.past past (e.stages past)) (e.renderedChildren past)

def stages (registry : Registry) (limit : Nat) (trace : Trace) (node : Node) : List Stage :=
  node.stagesWithin registry limit (limit + 1) trace

end Node

namespace Stage

-- The first sequence ends with a mark, or both are the same up to the first failure.
def Agree (stages others : List Stage) : Prop :=
  (∃ deep, .tooDeep deep ∈ reached stages) ∨ reached others = reached stages

theorem first_failure_reached (stages : List Stage) :
    firstFailure (reached stages) = firstFailure stages := by
  induction stages with
  | nil => rfl
  | cons stage rest ih =>
      simp only [firstFailure] at ih
      cases failed : stage.failure? with
      | some e => simp [reached, firstFailure, failed]
      | none => simp [reached, firstFailure, failed, ih]

theorem agree_same (stages : List Stage) : Agree stages stages :=
  .inr rfl

theorem agree_passed (stages others : List Stage) (agree : Agree stages others)
    (passed : firstFailure stages = none) : others = stages := by
  rcases agree with ⟨deep, member⟩ | same
  · rw [reached_whole stages passed] at member
    have failed := List.findSome?_eq_none_iff.mp passed _ member
    cases failed
  · have further : firstFailure others = none := by
      rw [← first_failure_reached, same, first_failure_reached, passed]
    rw [reached_whole stages passed, reached_whole others further] at same
    exact same

theorem agree_append (stages others later further : List Stage) (start : Agree stages others)
    (rest : firstFailure stages = none → Agree later further) :
    Agree (stages ++ later) (others ++ further) := by
  unfold Agree
  rw [reached_append, reached_append]
  cases failed : firstFailure stages with
  | none =>
      obtain rfl := agree_passed stages others start failed
      rw [failed]
      rcases rest failed with ⟨deep, member⟩ | same
      · exact .inl ⟨deep, List.mem_append_right _ member⟩
      · exact .inr (by simp [same])
  | some e =>
      rcases start with marked | same
      · exact .inl marked
      · have other : firstFailure others = some e := by
          rw [← first_failure_reached, same, first_failure_reached, failed]
        exact .inr (by simp [other, same])

end Stage

section Larger

variable (registry : Registry) (limit larger : Nat)

theorem chain_agrees (left more : Nat) (within : left ≤ more) (trace : Trace) (node : Node) :
    let chain := node.chain registry limit left trace
    let other := node.chain registry larger more trace
    Stage.Agree chain.1 other.1 ∧ (firstFailure chain.1 = none → other.2 = chain.2) := by
  induction left generalizing more trace node with
  | zero =>
      cases node with
      | text s => cases more <;> exact ⟨.inr rfl, fun _ => rfl⟩
      | element e => cases more <;> exact ⟨.inr rfl, fun _ => rfl⟩
      | reference r => exact ⟨.inl ⟨limit, List.mem_singleton_self _⟩, nofun⟩
  | succ left ih =>
      cases more with
      | zero => cases within
      | succ more =>
          cases node with
          | text s => exact ⟨.inr rfl, fun _ => rfl⟩
          | element e => exact ⟨.inr rfl, fun _ => rfl⟩
          | reference r =>
              obtain ⟨name, params⟩ := r
              simp only [Node.chain]
              cases Entries.get? registry.templates name with
              | none => exact ⟨.inr rfl, fun _ => rfl⟩
              | some template =>
                  dsimp only
                  cases template trace params with
                  | error e => exact ⟨.inr rfl, fun _ => rfl⟩
                  | ok given =>
                      obtain ⟨agree, ends⟩ :=
                        ih more (Nat.le_of_succ_le_succ within) (.called name params :: trace) given
                      refine ⟨?_, ends⟩
                      exact Stage.agree_append [_] [_] _ _ (Stage.agree_same _) fun _ => agree

theorem stages_of_agree (single other : Trace → Node → List Stage)
    (agree : ∀ trace node, Stage.Agree (single trace node) (other trace node)) (nodes : List Node)
    (trace : Trace) :
    Stage.Agree (Node.stagesOf single trace nodes) (Node.stagesOf other trace nodes) := by
  induction nodes generalizing trace with
  | nil => exact Stage.agree_same _
  | cons node rest ih =>
      refine Stage.agree_append _ _ _ _ (agree trace node) fun passed => ?_
      rw [Stage.agree_passed _ _ (agree trace node) passed]
      exact ih _

theorem stages_agree (within : limit ≤ larger) (room more : Nat) (roomy : room ≤ more)
    (trace : Trace) (node : Node) :
    Stage.Agree (node.stagesWithin registry limit room trace)
      (node.stagesWithin registry larger more trace) := by
  induction room generalizing more trace node with
  | zero => exact .inl ⟨limit, List.mem_singleton_self _⟩
  | succ room ih =>
      cases more with
      | zero => cases roomy
      | succ more =>
          obtain ⟨agree, ends⟩ := chain_agrees registry limit larger limit larger within trace node
          rcases chained : node.chain registry limit limit trace with ⟨calls, found⟩
          rcases further : node.chain registry larger larger trace with ⟨others, last⟩
          rw [chained, further] at agree ends
          simp only [Node.stagesWithin, chained, further]
          refine Stage.agree_append _ _ _ _ agree fun passed => ?_
          obtain rfl := Stage.agree_passed _ _ agree passed
          obtain rfl := ends passed
          cases last with
          | none => exact Stage.agree_same _
          | some e =>
              refine Stage.agree_append _ _ _ _ (Stage.agree_same _) fun _ => ?_
              exact stages_of_agree _ _ (ih more (Nat.le_of_succ_le_succ roomy)) _ _

end Larger

end HtmlTemplate
