import HtmlTemplate.Proofs.Decoding
import HtmlTemplate.Proofs.LayoutReading
import HtmlTemplate.Proofs.NodeRoundTrip

/-!
The JSON form of parsed markup. It has no numbers and no repeated names, and every element with
children that are no lone text adds two levels of nesting.
-/

set_option autoImplicit false

namespace HtmlTemplate

open Node (ofDom ofDoms bodyOfDoms ofDocument literalText literalAttributes optionalEntry
  writtenFields)

namespace Dom

def attributesForm (attributes : List (String × String)) : Option Json :=
  if attributes.isEmpty then none
  else some (.object ((Entries.firstPlaceLastValue attributes).map fun pair =>
    (pair.1, .string pair.2)))

mutual
def form : Dom → Json
  | .comment s => .object [("comment", .string s)]
  | .text s => .object [("body", .string s)]
  | .element name attributes children =>
    .object
      (writtenFields (some (.string name)) (attributesForm attributes) (some (bodyForm children))
        none)
  | .doctype _ => .string ""
def forms : List Dom → List Json
  | [] => []
  | node :: rest => form node :: forms rest
def bodyForm : List Dom → Json
  | [] => .string ""
  | [.text s] => .string s
  | node :: rest => .array (form node :: forms rest)
end

def documentForm (document : List Dom) : Json :=
  match document.dropWhile (·.kind = .doctype) with
  | [] => .string ""
  | [only] => form only
  | several => .object [("body", .array (forms several))]

end Dom

theorem attributes_entry_form (attributes : List (String × String)) :
    Node.attributesEntry (literalAttributes attributes) =
      .ok (optionalEntry "attributes" (Dom.attributesForm attributes)) := by
  cases attributes with
  | nil => rfl
  | cons pair rest =>
      have written := Node.attribute_entries_given (Entries.firstPlaceLastValue (pair :: rest))
      rw [← Attributes.of_list_entries] at written
      have opened : Node.attributesEntry (literalAttributes (pair :: rest)) =
          Node.beneath "attributes"
            (Node.attributeEntries (Attributes.ofList (pair :: rest)).entries >>= fun entries =>
              pure [("attributes", .object entries)]) := rfl
      rw [opened, written]
      rfl

-- A body is one text or a list that is not empty.
theorem body_form_forms (children : List Dom) :
    (∃ s, (children = [] ∨ children = [.text s]) ∧ bodyOfDoms children = .text s ∧
        Dom.bodyForm children = .string s) ∨
      (children ≠ [] ∧ bodyOfDoms children = .nodes (ofDoms children) ∧
        Dom.bodyForm children = .array (Dom.forms children)) := by
  match children with
  | [] => exact .inl ⟨"", .inl rfl, rfl, rfl⟩
  | [.text s] => exact .inl ⟨s, .inr rfl, rfl, rfl⟩
  | [.element name attributes children] => exact .inr ⟨nofun, rfl, rfl⟩
  | [.comment s] => exact .inr ⟨nofun, rfl, rfl⟩
  | [.doctype name] => exact .inr ⟨nofun, rfl, rfl⟩
  | first :: second :: rest => refine .inr ⟨nofun, ?_, ?_⟩ <;> cases first <;> rfl

mutual
theorem write_of_dom : (node : Dom) → Node.write (ofDom node) = .ok node.form
  | .text s => rfl
  | .comment s => rfl
  | .doctype name => rfl
  | .element name attributes children => by
      rw [ofDom, Node.write, attributes_entry_form, body_entry_of_doms children]
      rfl
theorem body_entry_of_doms : (children : List Dom) →
    Node.bodyEntry (some (.literal (bodyOfDoms children))) =
      .ok [("body", Dom.bodyForm children)] := by
  intro children
  rcases body_form_forms children with ⟨s, _, body, form⟩ | ⟨_, body, form⟩
  · rw [body, form]
    rfl
  · rw [body, form, Node.bodyEntry, write_of_doms children 0]
    rfl
theorem write_of_doms : (nodes : List Dom) → (i : Nat) →
    Node.writeFrom i (ofDoms nodes) = .ok (Dom.forms nodes)
  | [], _ => rfl
  | node :: rest, i => by
      rw [ofDoms, Node.writeFrom, write_of_dom node, write_of_doms rest (i + 1)]
      rfl
end

theorem to_json_of_document (document : List Dom) :
    (ofDocument document).toJson = .ok (Dom.documentForm document) := by
  unfold ofDocument Dom.documentForm
  generalize document.dropWhile (·.kind = .doctype) = kept
  match kept with
  | [] => rfl
  | [only] =>
      simp only [Node.toJson, write_of_dom]
      rfl
  | first :: second :: rest =>
      simp only [Node.toJson, Node.write, Node.bodyEntry, write_of_doms _ 0]
      rfl

theorem from_json_document (document : List Dom) :
    Node.fromJson (Dom.documentForm document) = .ok (ofDocument document) := by
  obtain ⟨value, written, read, _⟩ :=
    Node.to_json_read (ofDocument document) (of_document_literal document)
  obtain rfl : value = Dom.documentForm document :=
    Except.ok.inj (written.symm.trans (to_json_of_document document))
  exact read

namespace Dom

open Json (Legible)

theorem written_fields_legible (tag mapping content comment : Option Json)
    (tagged : ∀ value ∈ tag, Legible value) (mapped : ∀ value ∈ mapping, Legible value)
    (filled : ∀ value ∈ content, Legible value) (commented : ∀ value ∈ comment, Legible value) :
    Legible (.object (writtenFields tag mapping content comment)) := by
  have entry (name : String) (value : Option Json) (fits : ∀ v ∈ value, Legible v) :
      ∀ field ∈ optionalEntry name value, Legible field.2 := by
    intro field member
    obtain ⟨held, inside, rfl⟩ := List.mem_map.mp member
    exact fits held (Option.mem_toList.mp inside)
  refine .object _ ((Node.written_fields_keys tag mapping content comment).nodup (by decide)) ?_
  simp only [writtenFields, List.mem_append]
  rintro field (((member | member) | member) | member)
  · exact entry "tag" tag tagged field member
  · exact entry "attributes" mapping mapped field member
  · exact entry "body" content filled field member
  · exact entry "comment" comment commented field member

theorem attributes_form_legible (attributes : List (String × String)) (value : Json)
    (held : attributesForm attributes = some value) : Legible value := by
  cases attributes with
  | nil => cases held
  | cons pair rest =>
      cases held
      refine .object _ ?_ ?_
      · have distinct := Entries.set_all_distinct [] (pair :: rest) List.nodup_nil
        rw [Entries.set_all_first_place_last_value] at distinct
        rw [Entries.keys, List.map_map]
        exact distinct
      · intro field member
        obtain ⟨text, _, rfl⟩ := List.mem_map.mp member
        exact .string text.2

theorem body_form_legible (children : List Dom) (inside : ∀ value ∈ forms children, Legible value) :
    Legible (bodyForm children) := by
  rcases body_form_forms children with ⟨s, _, _, written⟩ | ⟨_, _, written⟩
  · rw [written]
    exact .string s
  · rw [written]
    exact .array _ inside

theorem legible_some {value : Json} (legible : Legible value) :
    ∀ held ∈ some value, Legible held := by
  intro held member
  cases member
  exact legible

mutual
theorem form_legible : (node : Dom) → Legible node.form
  | .comment s => written_fields_legible none none none _ nofun nofun nofun (legible_some (.string s))
  | .text s => written_fields_legible none none _ none nofun nofun (legible_some (.string s)) nofun
  | .doctype _ => .string ""
  | .element name attributes children =>
      written_fields_legible _ _ _ none (legible_some (.string name))
        (attributes_form_legible attributes)
        (legible_some (body_form_legible children (forms_legible children))) nofun
theorem forms_legible : (nodes : List Dom) → ∀ value ∈ forms nodes, Legible value
  | [] => nofun
  | node :: rest => List.forall_mem_cons.mpr ⟨form_legible node, forms_legible rest⟩
end

theorem document_form_legible (document : List Dom) : Legible (documentForm document) := by
  unfold documentForm
  split
  · exact .string ""
  · exact form_legible _
  · exact written_fields_legible none none _ none nofun nofun
      (legible_some (.array _ (forms_legible _))) nofun

theorem texts_nesting (texts : List (String × String)) :
    Json.fieldsNesting (texts.map fun pair => (pair.1, .string pair.2)) = 0 := by
  induction texts with
  | nil => rfl
  | cons pair rest ih => simp [Json.fieldsNesting, Json.nesting, ih]

theorem attributes_form_nesting (attributes : List (String × String)) :
    Json.fieldsNesting (optionalEntry "attributes" (attributesForm attributes)) =
      if attributes.isEmpty then 0 else 1 := by
  cases attributes with
  | nil => rfl
  | cons pair rest =>
      have flat := texts_nesting (Entries.firstPlaceLastValue (pair :: rest))
      simp [attributesForm, optionalEntry, Json.fieldsNesting, Json.nesting, flat]

theorem fields_nesting_append (fields others : List (String × Json)) :
    Json.fieldsNesting (fields ++ others) =
      max (Json.fieldsNesting fields) (Json.fieldsNesting others) := by
  induction fields with
  | nil => simp [Json.fieldsNesting]
  | cons field rest ih => simp [Json.fieldsNesting, ih, Nat.max_assoc]

theorem element_form_nesting (name : String) (attributes : List (String × String))
    (children : List Dom) :
    (form (.element name attributes children)).nesting =
      1 + max (if attributes.isEmpty then 0 else 1) (bodyForm children).nesting := by
  rw [form, Json.nesting, writtenFields, fields_nesting_append, fields_nesting_append,
    fields_nesting_append, attributes_form_nesting]
  simp [optionalEntry, Json.fieldsNesting, Json.nesting]

theorem body_form_nesting (children : List Dom)
    (inside : 2 * depthOf children ≤ Json.nestingOf (forms children) + 1 ∧
      Json.nestingOf (forms children) ≤ 2 * depthOf children + 2) :
    2 * (if children.isEmpty then 0 else 1 + depthOf children) ≤ (bodyForm children).nesting + 2 ∧
      (bodyForm children).nesting ≤
        2 * (if children.isEmpty then 0 else 1 + depthOf children) + 1 := by
  rcases body_form_forms children with ⟨s, single, _, written⟩ | ⟨inhabited, _, written⟩
  · rw [written]
    rcases single with rfl | rfl <;> simp [Json.nesting, depthOf, depth]
  · have some : children.isEmpty = false := by simpa using inhabited
    rw [written, some, Json.nesting]
    simp only [Bool.false_eq_true, if_false]
    omega

mutual
-- An element with children adds two levels: its object and the array of its children.
theorem form_nesting : (node : Dom) →
    2 * node.depth ≤ node.form.nesting + 1 ∧ node.form.nesting ≤ 2 * node.depth + 2
  | .comment s => ⟨Nat.zero_le _, Nat.le_succ 1⟩
  | .text s => ⟨Nat.zero_le _, Nat.le_succ 1⟩
  | .doctype _ => ⟨Nat.zero_le _, Nat.zero_le _⟩
  | .element name attributes children => by
      have inside := body_form_nesting children (forms_nesting children)
      have levels : (Dom.element name attributes children).depth =
          if children.isEmpty then 0 else 1 + depthOf children := by
        cases children <;> simp [depth, depthOf]
      have named : (if attributes.isEmpty then 0 else 1) ≤ 1 := by split <;> omega
      rw [← levels] at inside
      rw [element_form_nesting]
      omega
theorem forms_nesting : (nodes : List Dom) →
    2 * depthOf nodes ≤ Json.nestingOf (forms nodes) + 1 ∧
      Json.nestingOf (forms nodes) ≤ 2 * depthOf nodes + 2
  | [] => by decide
  | node :: rest => by
      have first := form_nesting node
      have others := forms_nesting rest
      simp only [forms, Json.nestingOf, depthOf]
      omega
end

theorem kept_depth (document : List Dom) :
    depthOf (document.dropWhile (·.kind = .doctype)) = depthOf document := by
  induction document with
  | nil => rfl
  | cons node rest ih =>
      cases node with
      | doctype name => simpa [kind, depthOf, depth] using ih
      | _ => rfl

theorem document_form_nesting (document : List Dom) :
    2 * depthOf document ≤ (documentForm document).nesting + 1 ∧
      (documentForm document).nesting ≤ 2 * depthOf document + 4 := by
  rw [← kept_depth]
  unfold documentForm
  generalize document.dropWhile (·.kind = .doctype) = kept
  match kept with
  | [] => decide
  | [only] =>
      have bounds := form_nesting only
      simp only [depthOf]
      omega
  | first :: second :: rest =>
      have bounds := forms_nesting (first :: second :: rest)
      simp only [Json.nesting, Json.fieldsNesting]
      omega

end Dom

end HtmlTemplate
