import HtmlTemplate.Render

set_option autoImplicit false

namespace HtmlTemplate

variable {α : Type}

def literalField : Option (Value α) → Bool
  | some (.deferred _) => false
  | _ => true

def fieldLiteral (absent : α) : Option (Value α) → α
  | some (.literal a) => a
  | _ => absent

def Attributes.literalEntries : List (String × Value String) → Bool
  | [] => true
  | (_, .literal _) :: rest => literalEntries rest
  | (_, .deferred _) :: _ => false

def Attributes.literals : List (String × Value String) → List (String × String)
  | [] => []
  | (key, .literal text) :: rest => (key, text) :: literals rest
  | (_, .deferred _) :: rest => literals rest

def literalMapping : Option (Value Attributes) → Bool
  | none => true
  | some (.deferred _) => false
  | some (.literal attributes) => Attributes.literalEntries attributes.entries

namespace Node

mutual
def literal : Node → Bool
  | .text _ => true
  | .reference _ => true
  | .element ⟨tag, attributes, body, comment⟩ =>
    literalField tag && literalMapping attributes && literalBody body && literalField comment
def literalBody : Option (Value (Body Node)) → Bool
  | none => true
  | some (.deferred _) => false
  | some (.literal (.text _)) => true
  | some (.literal (.nodes children)) => allLiteral children
def allLiteral : List Node → Bool
  | [] => true
  | node :: rest => literal node && allLiteral rest
end

end Node

-- What an element resolves to if all its fields are literal.
def Element.resolved (e : Element Node) : ResolvedElement where
  tag := normalizeTag (fieldLiteral "" e.tag)
  attributes := Attributes.literals (fieldLiteral Attributes.empty e.attributes).entries
  body := fieldLiteral .empty e.body
  comment := e.comment.bind Value.literal?

theorem force_field_literal (absent : α) (field : Option (Value α)) (given : literalField field) :
    forceField absent field = pure (fieldLiteral absent field) := by
  cases field with
  | none => rfl
  | some value =>
      cases value with
      | literal a => rfl
      | deferred d => cases given

theorem force_all_literal (entries : List (String × Value String))
    (given : Attributes.literalEntries entries) :
    Attributes.forceAll entries = pure (Attributes.literals entries) := by
  induction entries with
  | nil => rfl
  | cons entry rest ih =>
      obtain ⟨key, value⟩ := entry
      cases value with
      | literal text => simp [Attributes.forceAll, Attributes.literals, Value.force, ih given]
      | deferred d => cases given

theorem literal_field_given (field : Option (Value α)) (given : literalField field) :
    ∃ held : Option α, field = held.map .literal := by
  cases field with
  | none => exact ⟨none, rfl⟩
  | some value =>
      cases value with
      | literal a => exact ⟨some a, rfl⟩
      | deferred d => cases given

theorem literal_entries_given (entries : List (String × Value String))
    (given : Attributes.literalEntries entries) :
    entries = (Attributes.literals entries).map fun entry => (entry.1, .literal entry.2) := by
  induction entries with
  | nil => rfl
  | cons entry rest ih =>
      obtain ⟨key, value⟩ := entry
      cases value with
      | literal text => simpa [Attributes.literals] using ih given
      | deferred d => cases given

theorem literal_entries_map (pairs : List (String × String)) :
    Attributes.literalEntries (pairs.map fun pair => (pair.1, .literal pair.2)) := by
  induction pairs with
  | nil => rfl
  | cons pair rest ih => exact ih

theorem literals_map (pairs : List (String × String)) :
    Attributes.literals (pairs.map fun pair => (pair.1, .literal pair.2)) = pairs := by
  induction pairs with
  | nil => rfl
  | cons pair rest ih => simp [Attributes.literals, ih]

theorem literal_mapping_entries (mapping : Option (Value Attributes)) (given : literalMapping mapping) :
    literalField mapping ∧
      Attributes.literalEntries (fieldLiteral Attributes.empty mapping).entries := by
  cases mapping with
  | none => exact ⟨rfl, rfl⟩
  | some value =>
      cases value with
      | literal attributes => exact ⟨rfl, given⟩
      | deferred d => cases given

theorem literal_body_field (body : Option (Value (Body Node))) (given : Node.literalBody body) :
    literalField body := by
  cases body with
  | none => rfl
  | some value =>
      cases value with
      | literal content => rfl
      | deferred d => simp [Node.literalBody] at given

theorem element_literal_fields (e : Element Node) (given : (Node.element e).literal) :
    literalField e.tag ∧ literalMapping e.attributes ∧ Node.literalBody e.body ∧
      literalField e.comment := by
  obtain ⟨tag, attributes, body, comment⟩ := e
  simpa [Node.literal, and_assoc] using given

theorem element_resolve_literal (e : Element Node) (given : (Node.element e).literal) :
    e.resolve = pure e.resolved := by
  obtain ⟨tagGiven, mappingGiven, bodyGiven, commentGiven⟩ := element_literal_fields e given
  obtain ⟨attributesGiven, entriesGiven⟩ := literal_mapping_entries e.attributes mappingGiven
  have bodyField := literal_body_field e.body bodyGiven
  rw [Element.resolve, force_field_literal _ _ tagGiven, force_field_literal _ _ bodyField,
    force_field_literal _ _ attributesGiven]
  simp only [pure_bind, Attributes.force, force_all_literal _ entriesGiven]
  obtain ⟨tag, attributes, body, comment⟩ := e
  cases comment with
  | none => rfl
  | some value =>
      cases value with
      | literal text => rfl
      | deferred d => cases commentGiven

theorem resolve_within_text (registry : Registry) (limit left : Nat) (s : String) :
    Node.resolveWithin registry limit left (.text s) = pure (.text s) := by
  cases left <;> rfl

theorem resolve_within_element (registry : Registry) (limit left : Nat) (e : Element Node) :
    Node.resolveWithin registry limit left (.element e) = .element <$> e.resolve := by
  cases left <;> rfl

end HtmlTemplate
