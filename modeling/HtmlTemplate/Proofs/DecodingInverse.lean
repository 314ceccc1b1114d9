import HtmlTemplate.Proofs.Decoding
import HtmlTemplate.Proofs.NodeRoundTrip

/-!
Reading a document back off the node that was made of it. Of a document without doctypes, empty
texts and repeated attributes nothing is lost in its node, nor in the JSON form of that node.
-/

set_option autoImplicit false

namespace HtmlTemplate

open Node (ofDom ofDoms bodyOfDoms ofDocument)

namespace Dom

mutual
-- Whether a tree has nothing in it that its node does not show.
def faithful : Dom → Bool
  | .element _ attributes children => (Entries.keys attributes).Nodup && faithfulAll children
  | .text s => s ≠ ""
  | .comment _ => true
  | .doctype _ => false
def faithfulAll : List Dom → Bool
  | [] => true
  | node :: rest => faithful node && faithfulAll rest
end

end Dom

namespace Node

mutual
-- The tree from which a node was made. What is made of no tree is read as an empty text.
def toDom : Node → Dom
  | .element ⟨some (.literal name), attributes, body, _⟩ =>
    .element name (Attributes.literals (fieldLiteral Attributes.empty attributes).entries)
      (domsOfBody body)
  | .element ⟨_, _, some (.literal (.text s)), _⟩ => .text s
  | .element ⟨_, _, _, some (.literal s)⟩ => .comment s
  | _ => .text ""
def domsOfBody : Option (Value (Body Node)) → List Dom
  | some (.literal (.text s)) => if s = "" then [] else [.text s]
  | some (.literal (.nodes children)) => toDoms children
  | _ => []
def toDoms : List Node → List Dom
  | [] => []
  | node :: rest => toDom node :: toDoms rest
end

def toDocument : Node → List Dom
  | .text _ => []
  | .element ⟨none, _, some (.literal (.nodes children)), _⟩ => toDoms children
  | node => [toDom node]

theorem attributes_recovered (attributes : List (String × String))
    (distinct : (Entries.keys attributes).Nodup) :
    Attributes.literals (fieldLiteral Attributes.empty (literalAttributes attributes)).entries =
      attributes := by
  rw [literal_attributes_entries, Entries.first_place_last_value_distinct attributes distinct]

mutual
theorem to_dom_of_dom : (node : Dom) → node.faithful → toDom (ofDom node) = node
  | .text s, _ => rfl
  | .comment s, _ => rfl
  | .doctype name, own => by cases own
  | .element name attributes children, own => by
      obtain ⟨distinct, inside⟩ :
          (Entries.keys attributes).Nodup ∧ Dom.faithfulAll children := by
        simpa [Dom.faithful] using own
      rw [ofDom, literalText, toDom, attributes_recovered attributes distinct,
        doms_of_body_of_doms children inside]
theorem doms_of_body_of_doms : (children : List Dom) → Dom.faithfulAll children →
    domsOfBody (some (.literal (bodyOfDoms children))) = children
  | [], _ => rfl
  | [.text s], inside => by
      have filled : s ≠ "" := by simpa [Dom.faithfulAll, Dom.faithful] using inside
      rw [bodyOfDoms, domsOfBody, if_neg filled]
  | [.element name attributes children], inside => to_doms_of_doms [_] inside
  | [.comment s], inside => rfl
  | [.doctype name], inside => by cases inside
  | first :: second :: rest, inside => by
      have several : bodyOfDoms (first :: second :: rest) =
          .nodes (ofDoms (first :: second :: rest)) := by cases first <;> rfl
      rw [several, domsOfBody]
      exact to_doms_of_doms (first :: second :: rest) inside
theorem to_doms_of_doms : (nodes : List Dom) → Dom.faithfulAll nodes →
    toDoms (ofDoms nodes) = nodes
  | [], _ => rfl
  | node :: rest, fits => by
      simp only [Dom.faithfulAll, Bool.and_eq_true] at fits
      rw [ofDoms, toDoms, to_dom_of_dom node fits.1, to_doms_of_doms rest fits.2]
end

end Node

theorem faithful_not_doctype (node : Dom) (own : node.faithful) : node.kind ≠ .doctype := by
  cases node with
  | doctype name => cases own
  | _ => nofun

theorem faithful_kept (document : List Dom) (own : Dom.faithfulAll document) :
    document.dropWhile (·.kind = .doctype) = document := by
  cases document with
  | nil => rfl
  | cons node rest =>
      simp only [Dom.faithfulAll, Bool.and_eq_true] at own
      exact List.dropWhile_cons_of_neg (by simpa using faithful_not_doctype node own.1)

theorem to_document_single (node : Dom) (own : node.faithful) :
    Node.toDocument (ofDom node) = [Node.toDom (ofDom node)] := by
  cases node with
  | doctype name => cases own
  | _ => rfl

theorem to_document_of_document (document : List Dom) (own : Dom.faithfulAll document) :
    Node.toDocument (ofDocument document) = document := by
  rw [ofDocument, faithful_kept document own]
  match document, own with
  | [], _ => rfl
  | [node], own =>
      have single : node.faithful := by simpa [Dom.faithfulAll] using own
      exact (to_document_single node single).trans
        (congrArg (· :: []) (Node.to_dom_of_dom node single))
  | first :: second :: rest, own => exact Node.to_doms_of_doms (first :: second :: rest) own

theorem to_json_injective (node other : Node) (given : node.literal) (otherGiven : other.literal)
    (same : node.toJson = other.toJson) : node = other := by
  obtain ⟨value, written, read, _⟩ := Node.to_json_read node given
  obtain ⟨otherValue, otherWritten, otherRead, _⟩ := Node.to_json_read other otherGiven
  obtain rfl : value = otherValue := Except.ok.inj (written.symm.trans (same.trans otherWritten))
  exact Except.ok.inj (read.symm.trans otherRead)

theorem decoding_injective (document other : List Dom) (own : Dom.faithfulAll document)
    (otherOwn : Dom.faithfulAll other) :
    (ofDocument document = ofDocument other → document = other) ∧
      ((ofDocument document).toJson = (ofDocument other).toJson → document = other) := by
  have decoded : ofDocument document = ofDocument other → document = other := by
    intro same
    rw [← to_document_of_document document own, same, to_document_of_document other otherOwn]
  refine ⟨decoded, fun same => decoded ?_⟩
  exact to_json_injective _ _ (of_document_literal document) (of_document_literal other) same

-- The same text alone, in an element without a name, and next to a comment.
def loneText : List Dom := [.text "a"]
def wrappedText : List Dom := [.element "" [] [.text "a"]]
def nestedText : List Dom :=
  [.element "" [("y", "1"), ("x", "")] [.element "" [] [], .text "a"], .comment ""]

theorem similar_documents_apart :
    Dom.faithfulAll loneText ∧ Dom.faithfulAll wrappedText ∧ Dom.faithfulAll nestedText ∧
      ofDocument loneText ≠ ofDocument wrappedText ∧
      (ofDocument loneText).toJson ≠ (ofDocument wrappedText).toJson ∧
      (ofDocument wrappedText).toJson ≠ (ofDocument nestedText).toJson := by
  have loneOwn : Dom.faithfulAll loneText := by decide +kernel
  have wrappedOwn : Dom.faithfulAll wrappedText := by decide +kernel
  have nestedOwn : Dom.faithfulAll nestedText := by decide +kernel
  obtain ⟨decoded, written⟩ := decoding_injective loneText wrappedText loneOwn wrappedOwn
  obtain ⟨_, writtenNested⟩ := decoding_injective wrappedText nestedText wrappedOwn nestedOwn
  exact ⟨loneOwn, wrappedOwn, nestedOwn, fun same => absurd (decoded same) (by decide),
    fun same => absurd (written same) (by decide),
    fun same => absurd (writtenNested same) (by decide)⟩

end HtmlTemplate
