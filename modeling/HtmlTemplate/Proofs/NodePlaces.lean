import HtmlTemplate.Node.Basic
import HtmlTemplate.Proofs.PointerReading

/-!
Places in a tree of nodes, the order in which they are looked at and the keys that lead to them. A
place can be told from its keys.
-/

set_option autoImplicit false

namespace HtmlTemplate

-- A place in a tree of nodes. The value of an attribute is known by its number in the mapping.
inductive Position where
  | tag
  | attributes
  | value (index : Nat)
  | body
  | child (index : Nat) (inner : Position)
  | comment

namespace Position

def rank : Position → Nat
  | .tag => 0
  | .attributes => 1
  | .value _ => 2
  | .body => 3
  | .child _ _ => 4
  | .comment => 5

def field : Position → String
  | .tag => "tag"
  | .attributes | .value _ => "attributes"
  | .body | .child _ _ => "body"
  | .comment => "comment"

inductive Before : Position → Position → Prop
  | rank (p q : Position) : p.rank < q.rank → Before p q
  | value (i j : Nat) : i < j → Before (.value i) (.value j)
  | child (i j : Nat) (p q : Position) : i < j → Before (.child i p) (.child j q)
  | inner (i : Nat) (p q : Position) : Before p q → Before (.child i p) (.child i q)

theorem before_rank (p q : Position) (before : p.Before q) : p.rank ≤ q.rank := by
  cases before with
  | rank _ _ less => exact Nat.le_of_lt less
  | value | child | inner => exact Nat.le_refl _

theorem before_asymm (p q : Position) (first : p.Before q) : ¬ q.Before p := by
  induction first with
  | rank p q less =>
      intro second
      exact absurd (before_rank q p second) (Nat.not_le_of_lt less)
  | value i j less =>
      intro second
      cases second with
      | rank _ _ more => exact Nat.lt_irrefl _ more
      | value _ _ more => exact Nat.lt_asymm less more
  | child i j p q less =>
      intro second
      cases second with
      | rank _ _ more => exact Nat.lt_irrefl _ more
      | child _ _ _ _ more => exact Nat.lt_asymm less more
      | inner _ _ _ _ => exact Nat.lt_irrefl _ less
  | inner i p q _ ih =>
      intro second
      cases second with
      | rank _ _ more => exact Nat.lt_irrefl _ more
      | child _ _ _ _ more => exact Nat.lt_irrefl _ more
      | inner _ _ _ inside => exact ih inside

end Position

def Value.isDeferred {α : Type} : Value α → Bool
  | .literal _ => false
  | .deferred _ => true

namespace Node

def seen {α : Type} (keys : List String) (field : Option (Value α)) : Option (List String × Bool) :=
  field.map fun value => (keys, value.isDeferred)

-- The keys to a place that is not behind a deferred value, and whether the value there is deferred.
def at? : Node → Position → Option (List String × Bool)
  | .element e, .tag => seen ["tag"] e.tag
  | .element e, .attributes => seen ["attributes"] e.attributes
  | .element ⟨_, some (.literal attributes), _, _⟩, .value i =>
    attributes.entries[i]?.bind fun entry => seen ["attributes", entry.1] (some entry.2)
  | .element e, .body => seen ["body"] e.body
  | .element ⟨_, _, some (.literal (.nodes children)), _⟩, .child i inner =>
    children[i]?.bind fun node => (node.at? inner).map fun found =>
      ("body" :: Pointer.decimal i :: found.1, found.2)
  | .element e, .comment => seen ["comment"] e.comment
  | _, _ => none

theorem seen_some {α : Type} (keys others : List String) (field : Option (Value α))
    (deferred : Bool) :
    seen keys field = some (others, deferred) ↔
      others = keys ∧ ∃ value, field = some value ∧ value.isDeferred = deferred := by
  cases field with
  | none => simp [seen]
  | some value => simp [seen, eq_comm]

theorem is_deferred {α : Type} (value : Value α) : value.isDeferred ↔ ∃ d, value = .deferred d := by
  cases value <;> simp [Value.isDeferred]

theorem at_value (e : Element Node) (i : Nat) (keys : List String) (deferred : Bool) :
    (element e).at? (.value i) = some (keys, deferred) ↔
      ∃ attributes key value, e.attributes = some (.literal attributes) ∧
        attributes.entries[i]? = some (key, value) ∧ keys = ["attributes", key] ∧
        value.isDeferred = deferred := by
  obtain ⟨tag, mapping, body, comment⟩ := e
  match mapping with
  | none => simp [at?]
  | some (.deferred d) => simp [at?]
  | some (.literal attributes) => simp [at?, Option.bind_eq_some_iff, seen_some]

theorem at_child (e : Element Node) (i : Nat) (inner : Position) (keys : List String)
    (deferred : Bool) :
    (element e).at? (.child i inner) = some (keys, deferred) ↔
      ∃ children node others, e.body = some (.literal (.nodes children)) ∧
        children[i]? = some node ∧ node.at? inner = some (others, deferred) ∧
        keys = "body" :: Pointer.decimal i :: others := by
  obtain ⟨tag, mapping, body, comment⟩ := e
  match body with
  | none => simp [at?]
  | some (.deferred d) => simp [at?]
  | some (.literal (.text s)) => simp [at?]
  | some (.literal (.nodes children)) =>
      simp only [at?, Option.bind_eq_some_iff, Option.map_eq_some_iff]
      constructor
      · rintro ⟨node, held, ⟨others, _⟩, inside, same⟩
        cases same
        exact ⟨children, node, others, rfl, held, inside, rfl⟩
      · rintro ⟨_, node, others, same, held, inside, rfl⟩
        cases same
        exact ⟨node, held, _, inside, rfl⟩

theorem element_at (node : Node) (p : Position) (keys : List String) (deferred : Bool)
    (found : node.at? p = some (keys, deferred)) : ∃ e, node = .element e := by
  cases node with
  | element e => exact ⟨e, rfl⟩
  | text s => cases p <;> cases found
  | reference r => cases p <;> cases found

theorem at_field (e : Element Node) (p : Position) (keys : List String) (deferred : Bool)
    (found : (element e).at? p = some (keys, deferred)) : keys.head? = some p.field := by
  cases p with
  | value i =>
      obtain ⟨_, _, _, _, _, rfl, _⟩ := (at_value _ _ _ _).mp found
      rfl
  | child i inner =>
      obtain ⟨_, _, _, _, _, _, rfl⟩ := (at_child _ _ _ _ _).mp found
      rfl
  | tag | attributes | body | comment =>
      obtain ⟨rfl, _⟩ := (seen_some _ _ _ _).mp found
      rfl

theorem same_field (p q : Position) (node : Node) (keys : List String) (deferred other : Bool)
    (found : node.at? p = some (keys, deferred)) (again : node.at? q = some (keys, other)) :
    ∃ e, node = .element e ∧ p.field = q.field := by
  obtain ⟨e, rfl⟩ := element_at node p keys deferred found
  have first := at_field e p keys deferred found
  have second := at_field e q keys other again
  exact ⟨e, rfl, Option.some.inj (first.symm.trans second)⟩

theorem distinct_entry (attributes : Attributes) (i j : Nat) (key : String)
    (value other : Value String) (first : attributes.entries[i]? = some (key, value))
    (second : attributes.entries[j]? = some (key, other)) : i = j := by
  have inside : i < (Entries.keys attributes.entries).length := by
    simpa [Entries.keys] using (List.getElem?_eq_some_iff.mp first).1
  refine (List.getElem?_inj inside attributes.distinct).mp ?_
  simp [Entries.keys, first, second]

theorem value_behind_mapping (e : Element Node) (i : Nat) (keys : List String)
    (deferred other : Bool) (found : (element e).at? .attributes = some (keys, deferred)) :
    (element e).at? (.value i) ≠ some (keys, other) := by
  intro again
  obtain ⟨rfl, _⟩ := (seen_some _ _ _ _).mp found
  obtain ⟨_, _, _, _, _, longer, _⟩ := (at_value _ _ _ _).mp again
  cases longer

theorem child_behind_body (e : Element Node) (i : Nat) (inner : Position) (keys : List String)
    (deferred other : Bool) (found : (element e).at? .body = some (keys, deferred)) :
    (element e).at? (.child i inner) ≠ some (keys, other) := by
  intro again
  obtain ⟨rfl, _⟩ := (seen_some _ _ _ _).mp found
  obtain ⟨_, _, _, _, _, _, longer⟩ := (at_child _ _ _ _ _).mp again
  cases longer

theorem same_value_place (e : Element Node) (i j : Nat) (keys : List String)
    (deferred other : Bool) (found : (element e).at? (.value i) = some (keys, deferred))
    (again : (element e).at? (.value j) = some (keys, other)) : i = j := by
  obtain ⟨attributes, key, value, given, held, rfl, _⟩ := (at_value _ _ _ _).mp found
  obtain ⟨others, name, further, given', held', same, _⟩ := (at_value _ _ _ _).mp again
  cases same
  cases given.symm.trans given'
  exact distinct_entry attributes i j key value further held held'

theorem same_child_place (e : Element Node) (i j : Nat) (p q : Position) (keys : List String)
    (deferred other : Bool) (found : (element e).at? (.child i p) = some (keys, deferred))
    (again : (element e).at? (.child j q) = some (keys, other)) :
    i = j ∧ ∃ (node : Node) (further : List String),
      node.at? p = some (further, deferred) ∧ node.at? q = some (further, other) := by
  obtain ⟨children, node, further, given, held, inside, rfl⟩ := (at_child _ _ _ _ _).mp found
  obtain ⟨others, node', further', given', held', inside', same⟩ := (at_child _ _ _ _ _).mp again
  cases given.symm.trans given'
  obtain ⟨index, rfl⟩ : Pointer.decimal i = Pointer.decimal j ∧ further = further' := by
    simpa using same
  obtain rfl := Pointer.decimal_injective i j index
  cases held.symm.trans held'
  exact ⟨rfl, node, further, inside, inside'⟩

-- The keys to a place determine it: no name is twice in a mapping.
theorem at_injective (p q : Position) (node : Node) (keys : List String) (deferred other : Bool)
    (found : node.at? p = some (keys, deferred)) (again : node.at? q = some (keys, other)) :
    p = q := by
  induction p generalizing q node keys with
  | tag | comment =>
      obtain ⟨e, rfl, fields⟩ := same_field _ q node keys deferred other found again
      cases q <;> first | rfl | simp [Position.field] at fields
  | attributes =>
      obtain ⟨e, rfl, fields⟩ := same_field _ q node keys deferred other found again
      cases q with
      | attributes => rfl
      | value j => exact absurd again (value_behind_mapping e j keys deferred other found)
      | tag | body | child _ _ | comment => simp [Position.field] at fields
  | value i =>
      obtain ⟨e, rfl, fields⟩ := same_field _ q node keys deferred other found again
      cases q with
      | attributes => exact absurd found (value_behind_mapping e i keys other deferred again)
      | value j => rw [same_value_place e i j keys deferred other found again]
      | tag | body | child _ _ | comment => simp [Position.field] at fields
  | body =>
      obtain ⟨e, rfl, fields⟩ := same_field _ q node keys deferred other found again
      cases q with
      | body => rfl
      | child j inner =>
          exact absurd again (child_behind_body e j inner keys deferred other found)
      | tag | attributes | value _ | comment => simp [Position.field] at fields
  | child i inner ih =>
      obtain ⟨e, rfl, fields⟩ := same_field _ q node keys deferred other found again
      cases q with
      | body => exact absurd found (child_behind_body e i inner keys other deferred again)
      | child j further =>
          obtain ⟨rfl, child, others, inside, inside'⟩ :=
            same_child_place e i j inner further keys deferred other found again
          rw [ih further child others inside inside']
      | tag | attributes | value _ | comment => simp [Position.field] at fields

end Node

end HtmlTemplate
