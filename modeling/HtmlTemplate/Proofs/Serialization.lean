import HtmlTemplate.Proofs.Decoding
import HtmlTemplate.Proofs.Run

/-!
Parsed markup written out directly. Making a node of a document and rendering it gives the same
text, whatever templates there are.
-/

set_option autoImplicit false

namespace HtmlTemplate

open Node (ofDom ofDoms bodyOfDoms ofDocument)

namespace Dom

def attributesMarkup (attributes : List (String × String)) : String :=
  String.join (attributes.map fun (key, value) => " " ++ key ++ "=\"" ++ value ++ "\"")

def writtenTag (name : String) : String :=
  (normalizeTag name).getD ""

mutual
-- The text of a tree. An element without a name leaves only its children, a doctype nothing.
def serialize : Dom → String
  | .text s => s
  | .comment s => "<!--" ++ s ++ "-->"
  | .doctype _ => ""
  | .element name attributes children =>
    if name = "" then serializeAll children
    else
      (if writtenTag name = "html" then "<!DOCTYPE html>" else "") ++ "<" ++ writtenTag name ++
        attributesMarkup (Entries.firstPlaceLastValue attributes) ++
        if Render.isSelfClosing (writtenTag name) then "/>"
        else ">" ++ serializeAll children ++ "</" ++ writtenTag name ++ ">"
def serializeAll : List Dom → String
  | [] => ""
  | node :: rest => serialize node ++ serializeAll rest
end

mutual
def nesting : Dom → Nat
  | .element _ _ children => 1 + nestingOf children
  | _ => 0
def nestingOf : List Dom → Nat
  | [] => 0
  | node :: rest => max (nesting node) (nestingOf rest)
end

mutual
theorem depth_le_nesting : (node : Dom) → node.depth ≤ node.nesting
  | .text s => Nat.le_refl _
  | .comment s => Nat.le_refl _
  | .doctype name => Nat.le_refl _
  | .element name attributes [] => Nat.zero_le _
  | .element name attributes (node :: rest) => by
      have inner := depth_of_le_nesting (node :: rest)
      rw [element_depth name attributes (node :: rest) (by simp), nesting]
      omega
theorem depth_of_le_nesting : (nodes : List Dom) → depthOf nodes ≤ nestingOf nodes
  | [] => Nat.le_refl _
  | node :: rest => by
      have first := depth_le_nesting node
      have others := depth_of_le_nesting rest
      simp only [depthOf, nestingOf]
      omega
end

end Dom

theorem attributes_text_markup (attributes : List (String × String)) :
    Render.attributesText attributes = Dom.attributesMarkup attributes := by
  induction attributes with
  | nil => rfl
  | cons pair rest ih =>
      rw [Dom.attributesMarkup] at ih ⊢
      simp [Render.attributesText, String.join_cons, ih]

theorem normalize_tag_named (name : String) (named : name ≠ "") :
    normalizeTag name = some (Dom.writtenTag name) := by
  unfold Dom.writtenTag normalizeTag
  rw [if_neg named]
  split <;> rfl

theorem wrap_markup (name : String) (attributes : List (String × String)) (named : name ≠ "")
    (body : Body Node) (content : String) :
    ResolvedElement.wrap ⟨normalizeTag name, attributes, body, none⟩ content =
      (if Dom.writtenTag name = "html" then "<!DOCTYPE html>" else "") ++ "<" ++
        Dom.writtenTag name ++ Dom.attributesMarkup attributes ++
        if Render.isSelfClosing (Dom.writtenTag name) then "/>"
        else ">" ++ content ++ "</" ++ Dom.writtenTag name ++ ">" := by
  rw [normalize_tag_named name named]
  by_cases single : Render.isSelfClosing (Dom.writtenTag name) = true <;>
    simp [ResolvedElement.wrap, single, Render.openingText, Render.closingText, Render.commentText,
      attributes_text_markup, Render.doctype, String.append_assoc]

mutual
theorem of_dom_plain_text : (node : Dom) → (ofDom node).plainText = node.serialize
  | .text s => by
      rw [ofDom, fragment_plain_text, Node.plainBody, Dom.serialize]
  | .comment s => by
      simp [ofDom, element_plain_text, Element.resolved, fieldLiteral, normalizeTag, Value.literal?,
        Node.literalText, ResolvedElement.wrap, Render.commentText, Node.plainBody, Dom.serialize]
  | .doctype name => rfl
  | .element name attributes children => by
      have content : Node.plainBody (some (.literal (bodyOfDoms children))) =
          Dom.serializeAll children := by
        rcases body_of_doms_forms children with ⟨listed, _⟩ | joined
        · rw [listed]
          exact of_doms_plain_texts children
        · rw [joined]
          exact of_doms_plain_texts children
      rw [ofDom, element_plain_text, content, Element.resolved, literal_attributes_entries]
      by_cases named : name = ""
      · subst named
        simp [Node.literalText, fieldLiteral, normalizeTag, ResolvedElement.wrap,
          Render.commentText, Dom.serialize]
      · rw [Dom.serialize, if_neg named]
        exact wrap_markup name _ named _ _
theorem of_doms_plain_texts : (nodes : List Dom) →
    Node.plainTexts (ofDoms nodes) = Dom.serializeAll nodes
  | [] => rfl
  | node :: rest => by
      rw [ofDoms, Node.plainTexts, of_dom_plain_text node, of_doms_plain_texts rest,
        Dom.serializeAll]
end

theorem serialize_kept (document : List Dom) :
    Dom.serializeAll (document.dropWhile (·.kind = .doctype)) = Dom.serializeAll document := by
  induction document with
  | nil => rfl
  | cons node rest ih =>
      cases node with
      | doctype name => simpa [Dom.kind, Dom.serializeAll, Dom.serialize] using ih
      | element name attributes children => simp [Dom.kind]
      | text s => simp [Dom.kind]
      | comment s => simp [Dom.kind]

theorem of_document_plain_text (document : List Dom) :
    (ofDocument document).plainText = Dom.serializeAll document := by
  rw [← serialize_kept document]
  rcases of_document_forms document with ⟨node, single, same⟩ | ⟨nothing, same⟩ | same
  · rw [same, single, of_dom_plain_text]
    simp [Dom.serializeAll]
  · rw [same, nothing]
    rfl
  · rw [same, fragment_plain_text, Node.plainBody, of_doms_plain_texts]

-- The limit that a document needs; the theorem on nesting asks for at least as much.
theorem render_document_deep (document : List Dom) (registry : Registry) (limit : Nat)
    (deep : Dom.depthOf document < limit) :
    (ofDocument document).render registry limit = pure (Dom.serializeAll document) := by
  have bound := of_document_height document
  rw [render_literal registry limit _ (of_document_literal document)
    (of_document_references document), of_document_plain_text, if_pos (by omega)]

theorem render_document_serializes (document : List Dom) (registry : Registry) (limit : Nat)
    (past : Trace) (deep : Dom.nestingOf document < limit) :
    ((ofDocument document).render registry limit).account past =
      ⟨.ok (Dom.serializeAll document), past, []⟩ := by
  have nested := Dom.depth_of_le_nesting document
  rw [render_document_deep document registry limit (by omega), Run.pure_account]

def tangledDocument : List Dom :=
  [.doctype "html",
    .element "DIV" [("a", "1"), ("b", "2"), ("a", "3")]
      [.element "" [("x", "y")] [.text "t", .doctype "d"], .element "br" [] [.text "gone"]],
    .comment "c"]

theorem render_tangled_document :
    Dom.nestingOf tangledDocument < 3 ∧
      ((ofDocument tangledDocument).render .empty 3).account [] =
        ⟨.ok "<div a=\"3\" b=\"2\">t<br/></div><!--c-->", [], []⟩ := by
  have shallow : Dom.nestingOf tangledDocument < 3 := by decide
  have text : Dom.serializeAll tangledDocument = "<div a=\"3\" b=\"2\">t<br/></div><!--c-->" := by
    decide +kernel
  exact ⟨shallow, text ▸ render_document_serializes tangledDocument .empty 3 [] shallow⟩

end HtmlTemplate
