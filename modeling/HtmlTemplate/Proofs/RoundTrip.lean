import HtmlTemplate.Proofs.TreeTokens

set_option autoImplicit false

namespace HtmlTemplate

open Node (ofDocument)

namespace Dom

open Markup (Found Reads)

theorem serialize_all_append (nodes others : List Dom) :
    serializeAll (nodes ++ others) = serializeAll nodes ++ serializeAll others := by
  induction nodes with
  | nil => simp [serializeAll]
  | cons node rest ih => simp [serializeAll, ih, String.append_assoc]

theorem depth_of_append (nodes others : List Dom) :
    depthOf (nodes ++ others) = max (depthOf nodes) (depthOf others) := by
  induction nodes with
  | nil => simp [depthOf]
  | cons node rest ih => simp [depthOf, ih, Nat.max_assoc]

-- A doctype is neither written nor counted.
mutual
theorem serialize_with_doctypes : (node : Dom) → serializeAll (withDoctypes node) = serialize node
  | .text s => by simp [withDoctypes, serializeAll]
  | .comment s => by simp [withDoctypes, serializeAll]
  | .doctype name => by simp [withDoctypes, serializeAll]
  | .element name attributes children => by
      have inside := serialize_all_with_doctypes children
      by_cases html : name = "html" <;>
        simp [withDoctypes, html, serializeAll, serialize, inside]
theorem serialize_all_with_doctypes : (nodes : List Dom) →
    serializeAll (withDoctypesAll nodes) = serializeAll nodes
  | [] => rfl
  | node :: rest => by
      rw [withDoctypesAll, serialize_all_append, serialize_with_doctypes node,
        serialize_all_with_doctypes rest, serializeAll]
end

theorem with_doctypes_empty (nodes : List Dom) (empty : withDoctypesAll nodes = []) :
    nodes = [] := by
  cases nodes with
  | nil => rfl
  | cons node rest => cases node <;> simp [withDoctypesAll, withDoctypes] at empty

mutual
theorem depth_with_doctypes : (node : Dom) → depthOf (withDoctypes node) = node.depth
  | .text s => by simp [withDoctypes, depthOf]
  | .comment s => by simp [withDoctypes, depthOf]
  | .doctype name => by simp [withDoctypes, depthOf]
  | .element name attributes [] => by
      by_cases html : name = "html" <;> simp [withDoctypes, withDoctypesAll, html, depthOf, depth]
  | .element name attributes (node :: rest) => by
      have inside := depth_of_with_doctypes (node :: rest)
      have inhabited : withDoctypesAll (node :: rest) ≠ [] := fun empty =>
        absurd (with_doctypes_empty _ empty) (List.cons_ne_nil node rest)
      have outer := element_depth name attributes _ inhabited
      rw [element_depth name attributes (node :: rest) (List.cons_ne_nil node rest), ← inside,
        ← outer]
      by_cases html : name = "html" <;> simp [withDoctypes, html, depthOf, depth]
theorem depth_of_with_doctypes : (nodes : List Dom) →
    depthOf (withDoctypesAll nodes) = depthOf nodes
  | [] => rfl
  | node :: rest => by
      rw [withDoctypesAll, depth_of_append, depth_with_doctypes node, depth_of_with_doctypes rest,
        depthOf]
end

mutual
theorem depth_le_open (raw : List String) : (node : Dom) → safe raw node →
    node.depth ≤ node.openNesting
  | .text _, _ => Nat.zero_le _
  | .comment _, _ => Nat.zero_le _
  | .doctype _, _ => Nat.zero_le _
  | .element _ _ [], _ => Nat.zero_le _
  | .element name attributes (node :: rest), fits => by
      have element := safe_element raw name attributes (node :: rest) fits
      have inside := depth_of_le_open raw (node :: rest) element.childrenSafe
      have content : isVoid name = false := by
        rw [← Bool.not_eq_true]
        exact fun void => absurd (element.void void) (List.cons_ne_nil node rest)
      rw [element_depth name attributes (node :: rest) (List.cons_ne_nil node rest), openNesting,
        content]
      simp only [Bool.false_eq_true, if_false]
      omega
theorem depth_of_le_open (raw : List String) : (nodes : List Dom) → safeAll raw nodes →
    depthOf nodes ≤ openNestingOf nodes
  | [], _ => Nat.le_refl _
  | node :: rest, fits => by
      obtain ⟨own, _, behind⟩ := safe_cons raw node rest fits
      have first := depth_le_open raw node own
      have others := depth_of_le_open raw rest behind
      simp only [depthOf, openNestingOf]
      omega
end

theorem parse_serialized (document : List Dom) (limit : Nat) (fits : safeAll rawElements document)
    (room : openNestingOf document ≤ limit) :
    (parse ⟨false, limit⟩ (serializeAll document)).outcome = .ok (withDoctypesAll document) := by
  have read := Reads.tokenized (serialize_all_reads document fits .empty)
  have joined := Builder.run_take_all ⟨false, limit⟩ .empty .empty (tokensOf document)
    (tokens_of_plain rawElements document fits)
  have ready : Builder.empty.Ready limit (openNestingOf document) (beginsWithText document) :=
    ⟨by simpa [Builder.empty, Builder.names] using room, nofun, fun _ => rfl⟩
  have added := Builder.run_tokens_of rawElements ⟨false, limit⟩ document fits .empty ready []
  rw [List.append_nil] at added
  have run :
      Builder.empty.run ⟨false, limit⟩ (Found.empty.takeAll (tokensOf document)).all.reverse =
        (Builder.empty.pushAll (withDoctypesAll document), none) := joined.trans added
  rw [parse, build_flawless, read, build, run]
  simp [Builder.pushAll, Builder.modifyCurrent, Builder.empty, Builder.finish]

end Dom

theorem safe_document_round_trip (document : List Dom) (registry : Registry)
    (depth limit parseLimit : Nat) (past : Trace) (fits : Dom.safeAll Dom.rawElements document)
    (nested : Dom.openNestingOf document ≤ depth) (deep : depth + 1 ≤ limit)
    (parseDeep : depth ≤ parseLimit) :
    ∃ text, ((ofDocument document).render registry limit).account past = ⟨.ok text, past, []⟩ ∧
      (Dom.parse ⟨false, parseLimit⟩ text).outcome = .ok (Dom.withDoctypesAll document) ∧
      ((ofDocument (Dom.withDoctypesAll document)).render registry limit).account past =
        ⟨.ok text, past, []⟩ := by
  have bound := Dom.depth_of_le_open Dom.rawElements document fits
  have same := Dom.depth_of_with_doctypes document
  refine ⟨Dom.serializeAll document, ?_, ?_, ?_⟩
  · rw [render_document_deep document registry limit (by omega), Run.pure_account]
  · exact Dom.parse_serialized document parseLimit fits (by omega)
  · rw [render_document_deep (Dom.withDoctypesAll document) registry limit (by omega),
      Dom.serialize_all_with_doctypes, Run.pure_account]

-- Names in every role: an element that is read as raw text, one that has no content but is written
-- with an end tag, one that is written as a single tag, and the one that a doctype is written with.
def mixedDocument : List Dom :=
  [.element "html" [("lang", "en")]
      [.element "title" [] [.text "a > b"],
        .element "p" [("class", "x"), ("id", "<y>")]
          [.text "é", .element "wbr" [] [], .text "c\n", .comment ""],
        .element "br" [] []],
    .comment "end"]

theorem mixed_document_round_trip :
    Dom.safeAll Dom.rawElements mixedDocument ∧ Dom.openNestingOf mixedDocument ≤ 2 ∧
      ∃ text, text =
          "<!DOCTYPE html><html lang=\"en\"><title>a > b</title><p class=\"x\" id=\"<y>\">" ++
            "é<wbr></wbr>c\n<!----></p><br/></html><!--end-->" ∧
        ((ofDocument mixedDocument).render .empty 3).account [] = ⟨.ok text, [], []⟩ ∧
        (Dom.parse ⟨false, 2⟩ text).outcome = .ok (.doctype "html" :: mixedDocument) ∧
        ((ofDocument (.doctype "html" :: mixedDocument)).render .empty 3).account [] =
          ⟨.ok text, [], []⟩ := by
  have fits : Dom.safeAll Dom.rawElements mixedDocument := by decide +kernel
  have nested : Dom.openNestingOf mixedDocument ≤ 2 := by decide +kernel
  obtain ⟨text, rendered, parsed, again⟩ :=
    safe_document_round_trip mixedDocument .empty 2 3 2 [] fits nested (Nat.le_refl _)
      (Nat.le_refl _)
  refine ⟨fits, nested, text, ?_, rendered, parsed, again⟩
  have shallow : Dom.depthOf mixedDocument < 3 := by decide +kernel
  rw [render_document_deep mixedDocument .empty 3 shallow, Run.pure_account] at rendered
  have same : Dom.serializeAll mixedDocument = text :=
    Except.ok.inj (congrArg Account.outcome rendered)
  rw [← same]
  decide +kernel

-- The tokenizer does not read the content of this element as markup.
def framedDocument : List Dom :=
  [.element "noframe" [] [.element "b" [] []]]

theorem framed_document_parsed_as_text :
    Dom.safeAll Dom.textElements framedDocument ∧ Dom.openNestingOf framedDocument ≤ 2 ∧
      ((ofDocument framedDocument).render .empty 3).account [] =
        ⟨.ok "<noframe><b></b></noframe>", [], []⟩ ∧
      (Dom.parse ⟨false, 2⟩ "<noframe><b></b></noframe>").outcome =
        .ok [.element "noframe" [] [.text "<b></b>"]] ∧
      Dom.withDoctypesAll framedDocument ≠ [.element "noframe" [] [.text "<b></b>"]] := by
  have written : Dom.serializeAll framedDocument = "<noframe><b></b></noframe>" := by decide +kernel
  have shallow : Dom.depthOf framedDocument < 3 := by decide
  refine ⟨by decide, by decide, ?_, rfl, by decide⟩
  rw [render_document_deep framedDocument .empty 3 shallow, Run.pure_account, written]

end HtmlTemplate
