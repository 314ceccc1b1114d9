import HtmlTemplate.Node.OfDom
import HtmlTemplate.Proofs.InsertionOrder
import HtmlTemplate.Proofs.PlainText

set_option autoImplicit false

namespace HtmlTemplate

open Node (ofDom ofDoms bodyOfDoms ofDocument)

namespace Dom

mutual
def depth : Dom → Nat
  | .element _ _ [] => 0
  | .element _ _ (node :: rest) => 1 + max (depth node) (depthOf rest)
  | _ => 0
def depthOf : List Dom → Nat
  | [] => 0
  | node :: rest => max (depth node) (depthOf rest)
end

end Dom

theorem element_depth (name : String) (attributes : List (String × String)) (children : List Dom)
    (inhabited : children ≠ []) :
    (Dom.element name attributes children).depth = 1 + Dom.depthOf children := by
  cases children with
  | nil => exact absurd rfl inhabited
  | cons node rest => simp [Dom.depth, Dom.depthOf]

-- A body is the list of its nodes, or the text that they make up; the list is not empty.
theorem body_of_doms_forms (children : List Dom) :
    (bodyOfDoms children = .nodes (ofDoms children) ∧ children ≠ []) ∨
      bodyOfDoms children = .text (Node.plainTexts (ofDoms children)) := by
  match children with
  | [] => exact .inr rfl
  | [.text s] =>
      refine .inr ?_
      simp [bodyOfDoms, ofDoms, ofDom, Node.plainTexts, fragment_plain_text, Node.plainBody]
  | [.element name attributes children] => exact .inl ⟨rfl, by simp⟩
  | [.comment s] => exact .inl ⟨rfl, by simp⟩
  | [.doctype name] => exact .inl ⟨rfl, by simp⟩
  | first :: second :: rest =>
      refine .inl ⟨?_, by simp⟩
      cases first <;> rfl

theorem literal_attributes_literal (attributes : List (String × String)) :
    literalMapping (Node.literalAttributes attributes) := by
  cases attributes with
  | nil => rfl
  | cons pair rest =>
      simp [Node.literalAttributes, literalMapping, Attributes.of_list_entries, literal_entries_map]

theorem literal_attributes_entries (attributes : List (String × String)) :
    Attributes.literals (fieldLiteral Attributes.empty (Node.literalAttributes attributes)).entries =
      Entries.firstPlaceLastValue attributes := by
  cases attributes with
  | nil => rfl
  | cons pair rest =>
      simp [Node.literalAttributes, fieldLiteral, Attributes.of_list_entries, literals_map]

mutual
theorem of_dom_literal : (node : Dom) → (ofDom node).literal
  | .text s => rfl
  | .comment s => rfl
  | .doctype name => rfl
  | .element name attributes children => by
      simp only [ofDom, Node.literal, Bool.and_eq_true]
      refine ⟨⟨⟨rfl, literal_attributes_literal attributes⟩, ?_⟩, rfl⟩
      rcases body_of_doms_forms children with ⟨listed, _⟩ | joined
      · rw [listed]
        exact of_doms_literal children
      · rw [joined]
        rfl
theorem of_doms_literal : (nodes : List Dom) → Node.allLiteral (ofDoms nodes)
  | [] => rfl
  | node :: rest => by
      simp only [ofDoms, Node.allLiteral, Bool.and_eq_true]
      exact ⟨of_dom_literal node, of_doms_literal rest⟩
end

mutual
theorem of_dom_references : (node : Dom) → (ofDom node).references = []
  | .text s => rfl
  | .comment s => rfl
  | .doctype name => rfl
  | .element name attributes children => by
      rw [ofDom]
      rcases body_of_doms_forms children with ⟨listed, _⟩ | joined
      · rw [listed]
        exact of_doms_references children
      · rw [joined]
        rfl
theorem of_doms_references : (nodes : List Dom) → Node.referencesOf (ofDoms nodes) = []
  | [] => rfl
  | node :: rest => by
      simp [ofDoms, Node.referencesOf, of_dom_references node, of_doms_references rest]
end

mutual
theorem of_dom_height : (node : Dom) → (ofDom node).height ≤ node.depth
  | .text s => Nat.zero_le _
  | .comment s => Nat.zero_le _
  | .doctype name => Nat.zero_le _
  | .element name attributes children => by
      rw [ofDom, element_height]
      split
      · exact Nat.zero_le _
      · rcases body_of_doms_forms children with ⟨listed, inhabited⟩ | joined
        · rw [listed, element_depth name attributes children inhabited]
          exact of_doms_levels children
        · rw [joined]
          exact Nat.zero_le _
theorem of_doms_levels : (nodes : List Dom) → Node.levels (ofDoms nodes) ≤ 1 + Dom.depthOf nodes
  | [] => Nat.zero_le _
  | node :: rest => by
      have first := of_dom_height node
      have others := of_doms_levels rest
      simp only [ofDoms, Node.levels, Dom.depthOf]
      omega
end

theorem of_document_forms (document : List Dom) :
    let kept := document.dropWhile (·.kind = .doctype)
    (∃ node, kept = [node] ∧ ofDocument document = ofDom node) ∨
      (kept = [] ∧ ofDocument document = .empty) ∨
      ofDocument document = .element ⟨none, none, some (.literal (.nodes (ofDoms kept))), none⟩ := by
  intro kept
  unfold ofDocument
  split
  · rename_i nothing
    exact .inr (.inl ⟨nothing, rfl⟩)
  · rename_i node single
    exact .inl ⟨node, single, rfl⟩
  · exact .inr (.inr rfl)

theorem of_document_literal (document : List Dom) : (ofDocument document).literal := by
  rcases of_document_forms document with ⟨node, _, same⟩ | ⟨_, same⟩ | same
  · rw [same]
    exact of_dom_literal node
  · rw [same]
    rfl
  · rw [same]
    simp [Node.literal, literalField, literalMapping, Node.literalBody, of_doms_literal]

theorem of_document_references (document : List Dom) : (ofDocument document).references = [] := by
  rcases of_document_forms document with ⟨node, _, same⟩ | ⟨_, same⟩ | same
  · rw [same]
    exact of_dom_references node
  · rw [same]
    rfl
  · rw [same]
    exact of_doms_references _

theorem drop_while_depth (p : Dom → Bool) (nodes : List Dom) :
    Dom.depthOf (nodes.dropWhile p) ≤ Dom.depthOf nodes := by
  induction nodes with
  | nil => exact Nat.le_refl _
  | cons node rest ih =>
      by_cases dropped : p node = true
      · rw [List.dropWhile_cons_of_pos dropped]
        exact Nat.le_trans ih (Nat.le_max_right _ _)
      · simp [List.dropWhile_cons_of_neg dropped]

theorem of_document_height (document : List Dom) :
    (ofDocument document).height ≤ 1 + Dom.depthOf document := by
  have kept := drop_while_depth (·.kind = .doctype) document
  rcases of_document_forms document with ⟨node, single, same⟩ | ⟨_, same⟩ | same
  · rw [same]
    rw [single] at kept
    have bound := of_dom_height node
    simp only [Dom.depthOf] at kept
    omega
  · rw [same]
    exact Nat.zero_le _
  · rw [same, element_height]
    split
    · exact Nat.zero_le _
    · have bound := of_doms_levels (document.dropWhile (·.kind = .doctype))
      simp only [Node.bodyHeight]
      omega

end HtmlTemplate
