import HtmlTemplate.Node.Writer
import HtmlTemplate.Proofs.NodePlaces

/-!
Which nodes have no JSON form. A node is written exactly if no deferred value can be seen in it, and
otherwise the first one is pointed at; what would be produced plays no part in this.
-/

set_option autoImplicit false

namespace HtmlTemplate

namespace Node

-- Keys lead to a deferred value.
def Defers (node : Node) (p : Position) (keys : List String) : Prop :=
  node.at? p = some (keys, true)

def DefersFirst (node : Node) (p : Position) (keys : List String) : Prop :=
  node.Defers p keys ∧ ∀ q others, node.Defers q others → q = p ∨ p.Before q

section Points

variable {α β : Type}

-- A form is refused at the first of the places that are held to be deferred, if there are any.
def Points (outcome : Written α) (defers : Position → List String → Prop) : Prop :=
  match outcome with
  | .ok _ => ∀ p keys, ¬ defers p keys
  | .error keys => ∃ p, defers p keys ∧ ∀ q others, defers q others → q = p ∨ p.Before q

theorem points_congr (outcome : Written α) (defers others : Position → List String → Prop)
    (points : Points outcome defers) (same : ∀ p keys, others p keys ↔ defers p keys) :
    Points outcome others := by
  have equal : others = defers := funext fun p => funext fun keys => propext (same p keys)
  rw [equal]
  exact points

theorem points_map (f : α → β) (outcome : Written α) (defers : Position → List String → Prop)
    (points : Points outcome defers) : Points (f <$> outcome) defers := by
  cases outcome with
  | ok a => exact points
  | error keys => exact points

theorem points_bind (first : Written α) (next : α → Written β)
    (defers later : Position → List String → Prop) (start : Points first defers)
    (rest : ∀ a, Points (next a) later)
    (ordered : ∀ p q keys others, defers p keys → later q others → p.Before q) :
    Points (first >>= next) (fun p keys => defers p keys ∨ later p keys) := by
  cases first with
  | ok a =>
      refine points_congr _ later _ (rest a) fun p keys => ?_
      exact or_iff_right (start p keys)
  | error keys =>
      obtain ⟨p, deferred, least⟩ := start
      refine ⟨p, .inl deferred, fun q others found => ?_⟩
      rcases found with here | behind
      · exact least q others here
      · exact .inr (ordered p q keys others deferred behind)

theorem points_beneath (key : String) (moved : Position → Position) (outcome : Written α)
    (defers : Position → List String → Prop) (points : Points outcome defers)
    (ordered : ∀ p q, p.Before q → (moved p).Before (moved q)) :
    Points (beneath key outcome)
      (fun q others => ∃ p keys, q = moved p ∧ others = key :: keys ∧ defers p keys) := by
  cases outcome with
  | ok a =>
      rintro _ _ ⟨p, keys, _, _, deferred⟩
      exact points p keys deferred
  | error keys =>
      obtain ⟨p, deferred, least⟩ := points
      refine ⟨moved p, ⟨p, keys, rfl, rfl, deferred⟩, ?_⟩
      rintro _ _ ⟨q, others, rfl, _, found⟩
      exact (least q others found).imp (congrArg moved) (ordered p q)

end Points

inductive FieldDefers (place : Position) (name : String) :
    Option (Value String) → Position → List String → Prop
  | whole (d : Deferred String) : FieldDefers place name (some (.deferred d)) place [name]

inductive MappingDefers : Option (Value Attributes) → Position → List String → Prop
  | whole (d : Deferred Attributes) :
      MappingDefers (some (.deferred d)) .attributes ["attributes"]
  | value (attributes : Attributes) (i : Nat) (key : String) (d : Deferred String) :
      attributes.entries[i]? = some (key, .deferred d) →
      MappingDefers (some (.literal attributes)) (.value i) ["attributes", key]

inductive BodyDefers : Option (Value (Body Node)) → Position → List String → Prop
  | whole (d : Deferred (Body Node)) : BodyDefers (some (.deferred d)) .body ["body"]
  | child (children : List Node) (i : Nat) (node : Node) (inner : Position) (keys : List String) :
      children[i]? = some node → node.Defers inner keys →
      BodyDefers (some (.literal (.nodes children))) (.child i inner)
        ("body" :: Pointer.decimal i :: keys)

theorem seen_deferred {α : Type} (keys others : List String) (field : Option (Value α)) :
    seen keys field = some (others, true) ↔ others = keys ∧ ∃ d, field = some (.deferred d) := by
  rw [seen_some]
  constructor
  · rintro ⟨same, value, held, deferred⟩
    obtain ⟨d, rfl⟩ := (is_deferred value).mp deferred
    exact ⟨same, d, held⟩
  · rintro ⟨same, d, held⟩
    exact ⟨same, _, held, rfl⟩

theorem mapping_rank (mapping : Option (Value Attributes)) (p : Position) (keys : List String)
    (deferred : MappingDefers mapping p keys) : 1 ≤ p.rank ∧ p.rank ≤ 2 := by
  cases deferred <;> simp [Position.rank]

theorem body_rank (body : Option (Value (Body Node))) (p : Position) (keys : List String)
    (deferred : BodyDefers body p keys) : 3 ≤ p.rank ∧ p.rank ≤ 4 := by
  cases deferred <;> simp [Position.rank]

theorem element_defers (tag : Option (Value String)) (mapping : Option (Value Attributes))
    (body : Option (Value (Body Node))) (comment : Option (Value String)) (p : Position)
    (keys : List String) :
    (element ⟨tag, mapping, body, comment⟩).Defers p keys ↔
      FieldDefers .tag "tag" tag p keys ∨ MappingDefers mapping p keys ∨
        BodyDefers body p keys ∨ FieldDefers .comment "comment" comment p keys := by
  constructor
  · intro found
    cases p with
    | tag =>
        obtain ⟨rfl, d, rfl⟩ := (seen_deferred _ _ _).mp found
        exact .inl (.whole d)
    | attributes =>
        obtain ⟨rfl, d, rfl⟩ := (seen_deferred _ _ _).mp found
        exact .inr (.inl (.whole d))
    | value i =>
        obtain ⟨attributes, key, value, rfl, held, rfl, deferred⟩ := (at_value _ _ _ _).mp found
        obtain ⟨d, rfl⟩ := (is_deferred value).mp deferred
        exact .inr (.inl (.value attributes i key d held))
    | body =>
        obtain ⟨rfl, d, rfl⟩ := (seen_deferred _ _ _).mp found
        exact .inr (.inr (.inl (.whole d)))
    | child i inner =>
        obtain ⟨children, node, others, rfl, held, inside, rfl⟩ := (at_child _ _ _ _ _).mp found
        exact .inr (.inr (.inl (.child children i node inner others held inside)))
    | comment =>
        obtain ⟨rfl, d, rfl⟩ := (seen_deferred _ _ _).mp found
        exact .inr (.inr (.inr (.whole d)))
  · rintro (tag | mapping | body | comment)
    · cases tag with
      | whole d => exact (seen_deferred _ _ _).mpr ⟨rfl, d, rfl⟩
    · cases mapping with
      | whole d => exact (seen_deferred _ _ _).mpr ⟨rfl, d, rfl⟩
      | value attributes i key d held =>
          exact (at_value _ _ _ _).mpr ⟨attributes, key, _, rfl, held, rfl, rfl⟩
    · cases body with
      | whole d => exact (seen_deferred _ _ _).mpr ⟨rfl, d, rfl⟩
      | child children i node inner keys held found =>
          exact (at_child _ _ _ _ _).mpr ⟨children, node, keys, rfl, held, found, rfl⟩
    · cases comment with
      | whole d => exact (seen_deferred _ _ _).mpr ⟨rfl, d, rfl⟩

theorem string_entry_points (place : Position) (name : String) (field : Option (Value String)) :
    Points (stringEntry name field) (FieldDefers place name field) := by
  match field with
  | none => rintro p keys ⟨⟩
  | some (.literal _) => rintro p keys ⟨⟩
  | some (.deferred d) =>
      refine ⟨place, .whole d, ?_⟩
      rintro q others ⟨⟩
      exact .inl rfl

theorem attribute_entries_points (entries : List (String × Value String)) (i : Nat) :
    Points (attributeEntries entries) fun p keys =>
      ∃ j key d, p = .value (i + j) ∧ keys = [key] ∧ entries[j]? = some (key, .deferred d) := by
  induction entries generalizing i with
  | nil => rintro p keys ⟨_, _, _, _, _, held⟩; cases held
  | cons entry rest ih =>
      obtain ⟨name, value⟩ := entry
      have here : Points (beneath name (literalOf value)) fun p keys =>
          p = .value i ∧ keys = [name] ∧ ∃ d, value = .deferred d := by
        cases value with
        | literal text => rintro p keys ⟨_, _, _, held⟩; cases held
        | deferred d =>
            refine ⟨.value i, ⟨rfl, rfl, d, rfl⟩, ?_⟩
            rintro q others ⟨rfl, _⟩
            exact .inl rfl
      have both := points_bind _ (fun text => (fun entries => (name, .string text) :: entries) <$>
        attributeEntries rest) _ _ here (fun text => points_map _ _ _ (ih (i + 1))) (by
          rintro p q keys others ⟨rfl, _⟩ ⟨j, _, _, rfl, _⟩
          exact .value _ _ (by omega))
      refine points_congr _ _ _ both fun p keys => ⟨?_, ?_⟩
      · rintro ⟨j, key, d, rfl, rfl, held⟩
        cases j with
        | zero =>
            cases held
            exact .inl ⟨rfl, rfl, d, rfl⟩
        | succ j => exact .inr ⟨j, key, d, by rw [Nat.add_right_comm, Nat.add_assoc], rfl, held⟩
      · rintro (⟨rfl, rfl, d, rfl⟩ | ⟨j, key, d, rfl, rfl, held⟩)
        · exact ⟨0, name, d, rfl, rfl, rfl⟩
        · exact ⟨j + 1, key, d, by rw [Nat.add_right_comm, Nat.add_assoc], rfl, held⟩

theorem attributes_entry_points (mapping : Option (Value Attributes)) :
    Points (attributesEntry mapping) (MappingDefers mapping) := by
  match mapping with
  | none => rintro p keys ⟨⟩
  | some (.deferred d) =>
      refine ⟨.attributes, .whole d, ?_⟩
      rintro q others ⟨⟩
      exact .inl rfl
  | some (.literal attributes) =>
      have inside := points_map (fun entries => [("attributes", Json.object entries)]) _ _
        (attribute_entries_points attributes.entries 0)
      have placed := points_beneath "attributes" id _ _ inside fun _ _ before => before
      refine points_congr _ _ _ placed fun p keys => ⟨?_, ?_⟩
      · intro found
        cases found with
        | value _ i key d held =>
            exact ⟨.value i, [key], rfl, rfl, i, key, d, by rw [Nat.zero_add], rfl, held⟩
      · rintro ⟨_, _, rfl, rfl, i, key, d, rfl, rfl, held⟩
        rw [Nat.zero_add]
        exact .value attributes i key d held

-- The fields are written in the order of their places.
theorem element_points (tag : Option (Value String)) (mapping : Option (Value Attributes))
    (body : Option (Value (Body Node))) (comment : Option (Value String))
    (inside : Points (bodyEntry body) (BodyDefers body)) :
    Points (write (.element ⟨tag, mapping, body, comment⟩))
      (element ⟨tag, mapping, body, comment⟩).Defers := by
  have written (before : List (String × Json)) :=
    points_map (fun entries => Json.object (before ++ entries)) _ _
      (string_entry_points .comment "comment" comment)
  refine points_congr _ _ _ ?_ (element_defers tag mapping body comment)
  refine points_bind _ _ _ _ (string_entry_points .tag "tag" tag) (fun first => ?_) ?_
  · refine points_bind _ _ _ _ (attributes_entry_points mapping) (fun second => ?_) ?_
    · refine points_bind _ _ _ _ inside (fun third => written _) ?_
      intro p q keys others bodied commented
      cases commented
      exact .rank _ _ (Nat.lt_succ_of_le (body_rank body p keys bodied).2)
    · intro p q keys others mapped behind
      have early := (mapping_rank mapping p keys mapped).2
      rcases behind with bodied | commented
      · have late := (body_rank body q others bodied).1
        exact .rank _ _ (Nat.lt_of_le_of_lt early late)
      · cases commented
        exact .rank _ _ (Nat.lt_of_le_of_lt early (by decide))
  · intro p q keys others tagged behind
    cases tagged
    rcases behind with mapped | bodied | commented
    · exact .rank _ _ (mapping_rank mapping q others mapped).1
    · exact .rank _ _ (Nat.lt_of_lt_of_le (by decide) (body_rank body q others bodied).1)
    · cases commented
      exact .rank _ _ (by decide)

def ChildrenDefer (i : Nat) (children : List Node) (p : Position) (keys : List String) : Prop :=
  ∃ j node inner others, p = .child (i + j) inner ∧ keys = Pointer.decimal (i + j) :: others ∧
    children[j]? = some node ∧ node.Defers inner others

theorem children_defer_cons (i : Nat) (first : Node) (rest : List Node) (p : Position)
    (keys : List String) :
    ChildrenDefer i (first :: rest) p keys ↔
      (∃ inner others, p = .child i inner ∧ keys = Pointer.decimal i :: others ∧
        first.Defers inner others) ∨ ChildrenDefer (i + 1) rest p keys := by
  constructor
  · rintro ⟨j, node, inner, others, rfl, rfl, held, deferred⟩
    cases j with
    | zero =>
        cases held
        exact .inl ⟨inner, others, rfl, rfl, deferred⟩
    | succ j =>
        have moved : i + (j + 1) = i + 1 + j := by omega
        rw [moved]
        exact .inr ⟨j, node, inner, others, rfl, rfl, held, deferred⟩
  · rintro (⟨inner, others, rfl, rfl, deferred⟩ |
      ⟨j, node, inner, others, rfl, rfl, held, deferred⟩)
    · exact ⟨0, first, inner, others, rfl, rfl, rfl, deferred⟩
    · have moved : i + 1 + j = i + (j + 1) := by omega
      rw [moved]
      exact ⟨j + 1, node, inner, others, rfl, rfl, held, deferred⟩

mutual
theorem write_points : (node : Node) → Points (write node) node.Defers
  | .text s => by rintro p keys found; cases p <;> cases found
  | .reference r => by rintro p keys found; cases p <;> cases found
  | .element ⟨tag, mapping, body, comment⟩ =>
      element_points tag mapping body comment (body_points body)
theorem body_points : (body : Option (Value (Body Node))) →
    Points (bodyEntry body) (BodyDefers body)
  | none => by rintro p keys ⟨⟩
  | some (.deferred d) => by
      refine ⟨.body, .whole d, ?_⟩
      rintro q others ⟨⟩
      exact .inl rfl
  | some (.literal (.text s)) => by rintro p keys ⟨⟩
  | some (.literal (.nodes children)) => by
      have inside := points_map (fun items => [("body", Json.array items)]) _ _
        (write_from_points 0 children)
      have placed := points_beneath "body" id _ _ inside fun _ _ before => before
      refine points_congr _ _ _ placed fun p keys => ⟨?_, ?_⟩
      · intro found
        cases found with
        | child _ i node inner others held deferred =>
            refine ⟨.child i inner, Pointer.decimal i :: others, rfl, rfl, i, node, inner,
              others, ?_⟩
            rw [Nat.zero_add]
            exact ⟨rfl, rfl, held, deferred⟩
      · rintro ⟨_, _, rfl, rfl, i, node, inner, others, rfl, rfl, held, deferred⟩
        rw [Nat.zero_add]
        exact .child children i node inner others held deferred
theorem write_from_points : (i : Nat) → (children : List Node) →
    Points (writeFrom i children) (ChildrenDefer i children)
  | i, [] => by rintro p keys ⟨_, _, _, _, _, _, held, _⟩; cases held
  | i, first :: rest => by
      rw [writeFrom, Pointer.index_key_decimal]
      have here := points_beneath (Pointer.decimal i) (.child i) _ _ (write_points first)
        fun p q before => .inner i p q before
      have both := points_bind _ (fun item => (item :: ·) <$> writeFrom (i + 1) rest) _ _ here
        (fun item => points_map _ _ _ (write_from_points (i + 1) rest)) (by
          rintro p q keys others ⟨inner, _, rfl, _⟩ ⟨j, _, further, _, rfl, _⟩
          exact .child _ _ _ _ (by omega))
      exact points_congr _ _ _ both (children_defer_cons i first rest)
end

end Node

def Value.hidden {α : Type} : Value α → Value α
  | .literal a => .literal a
  | .deferred _ => .deferred (.fixed none (.error (.failure "")))

def Attributes.hidden (attributes : Attributes) : Attributes where
  entries := attributes.entries.map fun entry => (entry.1, entry.2.hidden)
  distinct := by
    have names : (attributes.entries.map fun entry => (entry.1, entry.2.hidden)).map Prod.fst =
        attributes.entries.map Prod.fst := by simp
    rw [Entries.keys, names]
    exact attributes.distinct

namespace Node

def hiddenMapping : Option (Value Attributes) → Option (Value Attributes)
  | some (.literal attributes) => some (.literal attributes.hidden)
  | mapping => mapping.map Value.hidden

mutual
def hidden : Node → Node
  | .text s => .text s
  | .reference r => .reference r
  | .element ⟨tag, attributes, body, comment⟩ =>
    .element
      ⟨tag.map Value.hidden, hiddenMapping attributes, hiddenBody body, comment.map Value.hidden⟩
def hiddenBody : Option (Value (Body Node)) → Option (Value (Body Node))
  | some (.literal (.nodes children)) => some (.literal (.nodes (allHidden children)))
  | body => body.map Value.hidden
def allHidden : List Node → List Node
  | [] => []
  | node :: rest => hidden node :: allHidden rest
end

theorem literal_of_hidden {α : Type} (value : Value α) :
    literalOf value.hidden = literalOf value := by
  cases value <;> rfl

theorem string_entry_hidden (name : String) (field : Option (Value String)) :
    stringEntry name (field.map Value.hidden) = stringEntry name field := by
  cases field with
  | none => rfl
  | some value => simp [stringEntry, literal_of_hidden]

theorem attribute_entries_hidden (entries : List (String × Value String)) :
    attributeEntries (entries.map fun entry => (entry.1, entry.2.hidden)) =
      attributeEntries entries := by
  induction entries with
  | nil => rfl
  | cons entry rest ih => simp [attributeEntries, literal_of_hidden, ih]

theorem attributes_entry_hidden (mapping : Option (Value Attributes)) :
    attributesEntry (hiddenMapping mapping) = attributesEntry mapping := by
  match mapping with
  | none => rfl
  | some (.deferred d) => rfl
  | some (.literal attributes) =>
      have opened (given : Attributes) : attributesEntry (some (.literal given)) =
          beneath "attributes" (do
            let entries ← attributeEntries given.entries
            return [("attributes", .object entries)]) := rfl
      rw [hiddenMapping, opened, opened, Attributes.hidden, attribute_entries_hidden]

mutual
theorem write_hidden : (node : Node) → write node.hidden = write node
  | .text _ => rfl
  | .reference _ => rfl
  | .element ⟨tag, mapping, body, comment⟩ => by
      simp only [hidden, write, string_entry_hidden, attributes_entry_hidden,
        body_entry_hidden body]
theorem body_entry_hidden : (body : Option (Value (Body Node))) →
    bodyEntry (hiddenBody body) = bodyEntry body
  | none => rfl
  | some (.deferred _) => rfl
  | some (.literal (.text _)) => rfl
  | some (.literal (.nodes children)) => by
      simp only [hiddenBody, bodyEntry, write_from_hidden 0 children]
theorem write_from_hidden : (i : Nat) → (children : List Node) →
    writeFrom i (allHidden children) = writeFrom i children
  | _, [] => rfl
  | i, first :: rest => by
      simp only [allHidden, writeFrom, write_hidden first, write_from_hidden (i + 1) rest]
end

theorem defers_first_unique (node : Node) (p q : Position) (keys others : List String)
    (first : node.DefersFirst p keys) (second : node.DefersFirst q others) : keys = others := by
  have same : q = p := by
    rcases first.2 q others second.1 with same | before
    · exact same
    · exact (second.2 p keys first.1).elim Eq.symm fun after =>
        absurd after (Position.before_asymm p q before)
  have here : some (keys, true) = some (others, true) := by
    rw [← first.1, ← second.1, same]
  simpa using here

theorem to_json_hidden (node : Node) : node.hidden.toJson = node.toJson := by
  rw [toJson, write_hidden, toJson]

theorem written_or_pointed (node : Node) :
    (∃ value, node.toJson = .ok value ∧ ∀ p keys, ¬ node.Defers p keys) ∨
      ∃ p keys, node.toJson = .error (.deferredValue (Pointer.text keys)) ∧
        node.DefersFirst p keys := by
  have points := write_points node
  rw [toJson]
  cases outcome : write node with
  | ok value =>
      rw [outcome] at points
      exact .inl ⟨value, rfl, points⟩
  | error keys =>
      rw [outcome] at points
      obtain ⟨p, first⟩ := points
      exact .inr ⟨p, keys, rfl, first⟩

-- The text names a place: no pointer to a deferred value is that of the whole node.
theorem deferred_message (node : Node) (p : Position) (keys : List String)
    (deferred : node.Defers p keys) :
    (Error.deferredValue (Pointer.text keys)).message =
      "can't serialize the deferred value at " ++ Pointer.text keys := by
  obtain ⟨e, rfl⟩ := element_at node p keys true deferred
  have field := at_field e p keys true deferred
  have inhabited : Pointer.text keys ≠ "" := by
    intro empty
    rw [Pointer.text_injective keys [] empty] at field
    cases field
  simp [Error.message, Error.messages, Error.pathText, inhabited]

theorem serialization_points_at_first_deferred (node : Node) :
    ((∃ value, node.toJson = .ok value) ↔ ∀ p keys, ¬ node.Defers p keys) ∧
    (∀ e, node.toJson = .error e ↔
      ∃ p keys path, node.DefersFirst p keys ∧ Pointer.Spells path keys ∧
        e = .deferredValue path ∧
        e.message = "can't serialize the deferred value at " ++ path) ∧
    (∀ p q keys others deferred other path, node.at? p = some (keys, deferred) →
      node.at? q = some (others, other) → Pointer.Spells path keys → Pointer.Spells path others →
      p = q) ∧
    (∀ other : Node, other.hidden = node.hidden → other.toJson = node.toJson) := by
  refine ⟨⟨?_, ?_⟩, fun e => ⟨?_, ?_⟩, ?_, ?_⟩
  · rintro ⟨value, written⟩
    rcases written_or_pointed node with ⟨_, _, none⟩ | ⟨_, _, refused, _⟩
    · exact none
    · rw [written] at refused
      cases refused
  · intro none
    rcases written_or_pointed node with ⟨value, written, _⟩ | ⟨p, keys, _, first⟩
    · exact ⟨value, written⟩
    · exact absurd first.1 (none p keys)
  · intro failed
    rcases written_or_pointed node with ⟨_, written, _⟩ | ⟨p, keys, refused, first⟩
    · rw [written] at failed
      cases failed
    · rw [refused] at failed
      cases failed
      have spelled := (Pointer.spells_iff (Pointer.text keys) keys).mpr rfl
      exact ⟨p, keys, _, first, spelled, rfl, deferred_message node p keys first.1⟩
  · rintro ⟨p, keys, path, first, spelled, rfl, _⟩
    obtain rfl := (Pointer.spells_iff path keys).mp spelled
    rcases written_or_pointed node with ⟨_, _, none⟩ | ⟨q, others, refused, least⟩
    · exact absurd first.1 (none p keys)
    · rw [refused, defers_first_unique node p q keys others first least]
  · intro p q keys others deferred other path found again spelled same
    obtain rfl : keys = others := spelled.reads.symm.trans same.reads
    exact at_injective p q node keys deferred other found again
  · intro other same
    rw [← to_json_hidden, same, to_json_hidden]

-- The second child of the card defers an attribute whose name has to be escaped.
def maskedCard (name : Except Error String) : Node :=
  let mapping := (Attributes.empty.set "a/b" (.literal "1")).set "a/b~"
    (.deferred (.fixed (some "slash") name))
  let child := .element
    ⟨none, some (.literal mapping), none, some (.deferred (.fixed (some "inner") name))⟩
  .element ⟨some (.literal "p"), none, some (.literal (.nodes [.text "a", child])),
    some (.deferred (.fixed (some "comment") name))⟩

theorem masked_card_pointed :
    let card := maskedCard (.ok "b")
    let other := maskedCard (.error (.failure "c"))
    let path := "/body/1/attributes/a~1b~0"
    (card.toJson = .error (.deferredValue path) ∧
      Pointer.Spells path ["body", "1", "attributes", "a/b~"] ∧
      card.DefersFirst (.child 1 (.value 1)) ["body", "1", "attributes", "a/b~"]) ∧
    (∀ q others other, card.at? q = some (others, other) → Pointer.Spells path others →
      q = .child 1 (.value 1)) ∧
    (other.hidden = card.hidden ∧ other.toJson = card.toJson) := by
  intro card other path
  let keys := ["body", "1", "attributes", "a/b~"]
  obtain ⟨_, errors, places, unproduced⟩ := serialization_points_at_first_deferred card
  have refused : card.toJson = .error (.deferredValue path) := rfl
  have stands : card.at? (.child 1 (.value 1)) = some (keys, true) := rfl
  obtain ⟨p, found, _, first, spelled, same, _⟩ := (errors _).mp refused
  obtain rfl := Error.deferredValue.inj same
  have read : Pointer.keysOf path = keys := by decide
  obtain rfl : keys = found := read.symm.trans spelled.reads
  obtain rfl := places _ _ _ _ _ _ _ first.1 stands spelled spelled
  refine ⟨⟨refused, spelled, first⟩, fun q others told held again => ?_, rfl, unproduced other rfl⟩
  exact places q _ others _ told true _ held stands again spelled

end Node

end HtmlTemplate
