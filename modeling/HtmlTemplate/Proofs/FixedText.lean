import HtmlTemplate.Proofs.NodeTokens
import HtmlTemplate.Proofs.ParseDepth

/-!
Text that is parsed and rendered again. It stays as it is, except that the comment of an `html`
element comes to stand before the doctype; after that nothing changes any more.
-/

set_option autoImplicit false

namespace HtmlTemplate

open Node (ofDocument)
open Markup (Found Reads isWord)

namespace Node

def behindComment (comment : Option (Value String)) (e : Element Node) : Node :=
  match comment with
  | none => .element e
  | some held => .element ⟨none, none, some (.literal (.nodes [.element e])), some held⟩

mutual
-- A node with every comment of an `html` element in a fragment around the element.
def commentsFirst : Node → Node
  | .text s => .text s
  | .reference r => .reference r
  | .element ⟨tag, attributes, body, comment⟩ =>
    if tag.bind Value.literal? = some "html" then
      behindComment comment ⟨tag, attributes, bodyCommentsFirst body, none⟩
    else .element ⟨tag, attributes, bodyCommentsFirst body, comment⟩
def bodyCommentsFirst : Option (Value (Body Node)) → Option (Value (Body Node))
  | some (.literal (.nodes nodes)) => some (.literal (.nodes (allCommentsFirst nodes)))
  | some (.literal (.text s)) => some (.literal (.text s))
  | some (.deferred d) => some (.deferred d)
  | none => none
def allCommentsFirst : List Node → List Node
  | [] => []
  | node :: rest => commentsFirst node :: allCommentsFirst rest
end

mutual
def plainHtml : Node → Bool
  | .text _ => true
  | .reference _ => true
  | .element ⟨tag, _, body, comment⟩ =>
    (tag.bind Value.literal? ≠ some "html" || comment.isNone) && bodyPlainHtml body
def bodyPlainHtml : Option (Value (Body Node)) → Bool
  | some (.literal (.nodes nodes)) => allPlainHtml nodes
  | _ => true
def allPlainHtml : List Node → Bool
  | [] => true
  | node :: rest => plainHtml node && allPlainHtml rest
end

end Node

theorem parse_rendered (node : Node) (limit : Nat) (safe : node.safe Dom.rawElements)
    (room : 1 + node.height ≤ limit) :
    (Dom.parse ⟨false, limit⟩ node.plainText).outcome = .ok (node.onto []).reverse := by
  have read := Reads.tokenized (node_reads node safe .empty)
  have joined := Dom.Builder.run_take_all ⟨false, limit⟩ .empty .empty node.tokens
    (node_tokens_plain node)
  have added := node_tokens_run ⟨false, limit⟩ Dom.rawElements node safe .empty
    (by simpa [Dom.Builder.empty, Dom.Builder.names] using room) nofun []
  rw [List.append_nil] at added
  have run :
      Dom.Builder.empty.run ⟨false, limit⟩ (Found.empty.takeAll node.tokens).all.reverse =
        (Dom.Builder.empty.modifyCurrent node.onto, none) := joined.trans added
  rw [Dom.parse, Dom.build_flawless, read, Dom.build, run]
  simp [Dom.Builder.modifyCurrent, Dom.Builder.empty, Dom.Builder.finish]

mutual
theorem comments_first_plain : (node : Node) → node.plainHtml → node.commentsFirst = node
  | .text s, _ => rfl
  | .reference r, _ => rfl
  | .element ⟨tag, attributes, body, comment⟩, plain => by
      simp only [Node.plainHtml, Bool.and_eq_true, Bool.or_eq_true, decide_eq_true_eq,
        Option.isNone_iff_eq_none] at plain
      rw [Node.commentsFirst, body_comments_first_plain body plain.2]
      split
      · rename_i html
        rw [plain.1.resolve_left fun other => other html]
        rfl
      · rfl
theorem body_comments_first_plain : (body : Option (Value (Body Node))) →
    Node.bodyPlainHtml body → Node.bodyCommentsFirst body = body
  | none, _ => rfl
  | some (.deferred _), _ => rfl
  | some (.literal (.text _)), _ => rfl
  | some (.literal (.nodes nodes)), plain => by
      rw [Node.bodyCommentsFirst, all_comments_first_plain nodes plain]
theorem all_comments_first_plain : (nodes : List Node) → Node.allPlainHtml nodes →
    Node.allCommentsFirst nodes = nodes
  | [], _ => rfl
  | node :: rest, plain => by
      simp only [Node.allPlainHtml, Bool.and_eq_true] at plain
      rw [Node.allCommentsFirst, comments_first_plain node plain.1,
        all_comments_first_plain rest plain.2]
end

mutual
theorem comments_first_plain_html : (node : Node) → node.commentsFirst.plainHtml
  | .text s => rfl
  | .reference r => rfl
  | .element ⟨tag, attributes, body, comment⟩ => by
      have inside := body_comments_first_plain_html body
      rw [Node.commentsFirst]
      split
      · cases comment with
        | none => simp [Node.behindComment, Node.plainHtml, inside]
        | some held =>
            simp [Node.behindComment, Node.plainHtml, Node.bodyPlainHtml, Node.allPlainHtml, inside]
      · rename_i other
        simp [Node.plainHtml, other, inside]
theorem body_comments_first_plain_html : (body : Option (Value (Body Node))) →
    Node.bodyPlainHtml (Node.bodyCommentsFirst body)
  | none => rfl
  | some (.deferred _) => rfl
  | some (.literal (.text _)) => rfl
  | some (.literal (.nodes nodes)) => all_comments_first_plain_html nodes
theorem all_comments_first_plain_html : (nodes : List Node) →
    Node.allPlainHtml (Node.allCommentsFirst nodes)
  | [] => rfl
  | node :: rest => by
      simp only [Node.allCommentsFirst, Node.allPlainHtml, Bool.and_eq_true]
      exact ⟨comments_first_plain_html node, all_comments_first_plain_html rest⟩
end

theorem comments_first_empty (body : Option (Value (Body Node))) (empty : Node.emptyBody body) :
    Node.bodyCommentsFirst body = body := by
  match body with
  | none => rfl
  | some (.literal (.text s)) => rfl
  | some (.literal (.nodes [])) => rfl
  | some (.literal (.nodes (node :: rest))) => cases empty
  | some (.deferred _) => cases empty

mutual
theorem comments_first_safe (raw : List String) : (node : Node) → node.safe raw →
    node.commentsFirst.safe raw
  | .text s, safe => safe
  | .reference _, safe => by cases safe
  | .element ⟨tag, attributes, body, comment⟩, safe => by
      simp only [Node.safe, Bool.and_eq_true] at safe
      obtain ⟨⟨⟨⟨tagSafe, mapping⟩, commentSafe⟩, void⟩, bodySafe⟩ := safe
      have inside := body_comments_first_safe raw body bodySafe
      have content : (!(tag.bind Value.literal?).any Dom.isVoid ||
          Node.emptyBody (Node.bodyCommentsFirst body)) = true := by
        simp only [Bool.or_eq_true] at void ⊢
        exact void.imp id fun empty => (comments_first_empty body empty).symm ▸ empty
      rw [Node.commentsFirst]
      split
      · cases comment with
        | none =>
            simp only [Node.behindComment, Node.safe, Bool.and_eq_true]
            exact ⟨⟨⟨⟨tagSafe, mapping⟩, rfl⟩, content⟩, inside⟩
        | some held =>
            simp only [Node.behindComment, Node.safe, Node.safeBody, Node.allSafe,
              Bool.and_eq_true]
            exact ⟨⟨⟨⟨rfl, rfl⟩, commentSafe⟩, rfl⟩, ⟨⟨⟨⟨tagSafe, mapping⟩, rfl⟩, content⟩, inside⟩,
              trivial⟩
      · simp only [Node.safe, Bool.and_eq_true]
        exact ⟨⟨⟨⟨tagSafe, mapping⟩, commentSafe⟩, content⟩, inside⟩
theorem body_comments_first_safe (raw : List String) : (body : Option (Value (Body Node))) →
    Node.safeBody raw body → Node.safeBody raw (Node.bodyCommentsFirst body)
  | none, _ => rfl
  | some (.deferred _), safe => by cases safe
  | some (.literal (.text _)), safe => safe
  | some (.literal (.nodes nodes)), safe => all_comments_first_safe raw nodes safe
theorem all_comments_first_safe (raw : List String) : (nodes : List Node) →
    Node.allSafe raw nodes → Node.allSafe raw (Node.allCommentsFirst nodes)
  | [], _ => rfl
  | node :: rest, safe => by
      simp only [Node.allSafe, Bool.and_eq_true] at safe
      simp only [Node.allCommentsFirst, Node.allSafe, Bool.and_eq_true]
      exact ⟨comments_first_safe raw node safe.1, all_comments_first_safe raw rest safe.2⟩
end

theorem serialize_text_onto (s : String) (before : List Dom) :
    Dom.serializeAll (Node.textOnto s before).reverse = Dom.serializeAll before.reverse ++ s := by
  unfold Node.textOnto Dom.Builder.joinText
  split
  · rename_i empty
    rw [empty, String.append_empty]
  · split <;>
      simp [Dom.serialize_all_append, Dom.serializeAll, Dom.serialize, String.append_assoc]

theorem serialize_comment_onto (comment : Option (Value String)) (before : List Dom) :
    Dom.serializeAll (Node.commentOnto comment before).reverse =
      Dom.serializeAll before.reverse ++ Render.commentText (comment.bind Value.literal?) := by
  match comment with
  | some (.literal s) =>
      simp [Node.commentOnto, Dom.serialize_all_append, Dom.serializeAll, Dom.serialize,
        Render.commentText, Value.literal?]
  | none => exact (String.append_empty).symm
  | some (.deferred d) => exact (String.append_empty).symm

-- A doctype is kept and leaves no text, so that the comment behind it comes to stand first.
theorem serialize_doctype_onto (name : String) (before : List Dom) :
    Dom.serializeAll (if name = "html" then .doctype "html" :: before else before).reverse =
      Dom.serializeAll before.reverse := by
  split
  · simp [Dom.serialize_all_append, Dom.serializeAll, Dom.serialize]
  · rfl

theorem named_plain_text (name : String) (word : isWord [] name)
    (attributes : Option (Value Attributes)) (body : Option (Value (Body Node)))
    (comment : Option (Value String)) (content : Body Node) :
    (Node.element ⟨some (.literal name), attributes, body, comment⟩).plainText =
      ResolvedElement.wrap
        ⟨some name, Attributes.literals (fieldLiteral Attributes.empty attributes).entries,
          content, comment.bind Value.literal?⟩
        (Node.plainBody body) := by
  rw [element_plain_text, Element.resolved, fieldLiteral, word_tag name word, wrap_named, wrap_named]

theorem comments_first_named (name : String) (word : isWord [] name)
    (attributes : Option (Value Attributes)) (body : Option (Value (Body Node)))
    (comment : Option (Value String)) (given : literalField comment) (content : Body Node) :
    (Node.element ⟨some (.literal name), attributes, body, comment⟩).commentsFirst.plainText =
      Render.commentText (comment.bind Value.literal?) ++
        ResolvedElement.wrap
          ⟨some name, Attributes.literals (fieldLiteral Attributes.empty attributes).entries,
            content, none⟩
          (Node.plainBody (Node.bodyCommentsFirst body)) := by
  have bare := named_plain_text name word attributes (Node.bodyCommentsFirst body) none content
  rw [Node.commentsFirst]
  split
  · match comment with
    | none => exact bare.trans String.empty_append.symm
    | some (.literal s) =>
        have alone : Node.plainBody (some (.literal (.nodes [.element ⟨some (.literal name),
            attributes, Node.bodyCommentsFirst body, none⟩]))) = _ := String.append_empty.trans bare
        rw [Node.behindComment, element_plain_text, alone]
        rfl
    | some (.deferred d) => cases given
  · rename_i other
    have doctype : name ≠ "html" := fun html => other (congrArg some html)
    rw [named_plain_text name word attributes _ comment content, wrap_named, wrap_named,
      if_neg doctype, String.empty_append, String.empty_append, Render.commentText,
      String.empty_append]

theorem untagged_comments_first (attributes : Option (Value Attributes))
    (body : Option (Value (Body Node))) (comment : Option (Value String)) :
    (Node.element ⟨none, attributes, body, comment⟩).commentsFirst =
      .element ⟨none, attributes, Node.bodyCommentsFirst body, comment⟩ := by
  rw [Node.commentsFirst]
  rfl

mutual
theorem serialize_onto (raw : List String) : (node : Node) → node.safe raw →
    (before : List Dom) → Dom.serializeAll (node.onto before).reverse =
      Dom.serializeAll before.reverse ++ node.commentsFirst.plainText
  | .text s, _, before => serialize_text_onto s before
  | .reference _, safe, _ => by cases safe
  | .element ⟨tag, attributes, body, comment⟩, safe, before => by
      have element := element_safe raw _ safe
      have given : literalField comment := safe_field_literal _ comment element.comment
      rw [element_onto]
      rcases element.tag with rfl | ⟨name, rfl, named⟩
      · rw [untagged_onto, serialize_body_onto raw body element.body, serialize_comment_onto,
          untagged_comments_first, element_plain_text, String.append_assoc]
        rfl
      · have inside := serialize_body_onto raw body element.body []
        rw [List.reverse_nil, Dom.serializeAll, String.empty_append] at inside
        rw [Node.elementOnto, List.reverse_cons, Dom.serialize_all_append, serialize_comment_onto,
          Dom.serializeAll, Dom.serializeAll, String.append_empty,
          Dom.serialize_safe_element name _ _ named.word element.attributes, inside,
          comments_first_named name named.word attributes body comment given .empty, wrap_named,
          serialize_doctype_onto, String.append_assoc, Render.commentText, String.empty_append]
theorem serialize_body_onto (raw : List String) : (body : Option (Value (Body Node))) →
    Node.safeBody raw body → (before : List Dom) →
    Dom.serializeAll (Node.bodyOnto body before).reverse =
      Dom.serializeAll before.reverse ++ Node.plainBody (Node.bodyCommentsFirst body)
  | none, _, before => (String.append_empty).symm
  | some (.deferred _), safe, _ => by cases safe
  | some (.literal (.text s)), _, before => serialize_text_onto s before
  | some (.literal (.nodes nodes)), safe, before => serialize_all_onto raw nodes safe before
theorem serialize_all_onto (raw : List String) : (nodes : List Node) → Node.allSafe raw nodes →
    (before : List Dom) →
    Dom.serializeAll (Node.allOnto nodes before).reverse =
      Dom.serializeAll before.reverse ++ Node.plainTexts (Node.allCommentsFirst nodes)
  | [], _, before => (String.append_empty).symm
  | node :: rest, safe, before => by
      simp only [Node.allSafe, Bool.and_eq_true] at safe
      rw [Node.allOnto, serialize_all_onto raw rest safe.2, serialize_onto raw node safe.1,
        Node.allCommentsFirst, Node.plainTexts, String.append_assoc]
end

theorem append_inj_of_length (a b c d : String) (same : a ++ b = c ++ d)
    (length : a.length = c.length) : a = c ∧ b = d := by
  have lists := congrArg String.toList same
  rw [String.toList_append, String.toList_append] at lists
  obtain ⟨first, second⟩ := List.append_inj lists length
  exact ⟨String.toList_inj.mp first, String.toList_inj.mp second⟩

theorem doctype_not_comment (s t u : String) :
    "<!--" ++ s ++ "-->" ++ t ≠ "<!DOCTYPE html>" ++ u := by
  intro same
  have lists := congrArg String.toList same
  simp [String.toList_append] at lists

-- Whether two texts of one length are the same only if a condition holds.
def Moves (text moved : String) (unmoved : Bool) : Prop :=
  moved.length = text.length ∧ (moved = text → unmoved)

theorem moves_refl (text : String) : Moves text text true :=
  ⟨rfl, fun _ => rfl⟩

theorem moves_append (text other moved further : String) (first second : Bool)
    (start : Moves text moved first) (rest : Moves other further second) :
    Moves (text ++ other) (moved ++ further) (first && second) := by
  constructor
  · rw [String.length_append, String.length_append, start.1, rest.1]
  · intro same
    obtain ⟨starts, rests⟩ := append_inj_of_length _ _ _ _ same start.1
    rw [start.2 starts, rest.2 rests]
    rfl

theorem moves_front (name : String) (comment : Option (Value String)) (given : literalField comment) :
    let doctype := if name = "html" then "<!DOCTYPE html>" else ""
    let words := Render.commentText (comment.bind Value.literal?)
    Moves (doctype ++ words) (words ++ doctype) (name ≠ "html" || comment.isNone) := by
  intro doctype words
  constructor
  · rw [String.length_append, String.length_append, Nat.add_comm]
  · intro same
    by_cases html : name = "html"
    · obtain ⟨held, rfl⟩ := literal_field_given comment given
      cases held with
      | none => simp
      | some s =>
          simp only [doctype, if_pos html] at same
          exact absurd same (doctype_not_comment s _ _)
    · simp [html]

theorem named_moves (name : String) (attributes : List (String × String))
    (comment : Option (Value String)) (given : literalField comment) (content moved : String)
    (plain : Bool) (inside : Moves content moved plain)
    (emptied : Render.isSelfClosing name → plain = true) :
    Moves
      (ResolvedElement.wrap ⟨some name, attributes, .empty, comment.bind Value.literal?⟩ content)
      (Render.commentText (comment.bind Value.literal?) ++
        ResolvedElement.wrap ⟨some name, attributes, .empty, none⟩ moved)
      ((name ≠ "html" || comment.isNone) && plain) := by
  have rest : Moves (if Render.isSelfClosing name then "" else content ++ ("</" ++ name ++ ">"))
      (if Render.isSelfClosing name then "" else moved ++ ("</" ++ name ++ ">")) plain := by
    split
    · rename_i single
      rw [emptied single]
      exact moves_refl ""
    · simpa using moves_append _ _ _ _ _ _ inside (moves_refl ("</" ++ name ++ ">"))
  have behind := moves_append _ _ _ _ _ _
    (moves_refl ("<" ++ name ++ Render.attributesText attributes ++
      if Render.isSelfClosing name then "/>" else ">")) rest
  have whole := moves_append _ _ _ _ _ _ (moves_front name comment given) behind
  rw [wrap_named, wrap_named, Render.commentText, String.empty_append]
  simp only [Bool.true_and, String.append_assoc] at whole ⊢
  exact whole

theorem empty_plain_html (body : Option (Value (Body Node))) (empty : Node.emptyBody body) :
    Node.bodyPlainHtml body := by
  match body with
  | none => rfl
  | some (.literal (.text s)) => rfl
  | some (.literal (.nodes [])) => rfl
  | some (.literal (.nodes (node :: rest))) => cases empty
  | some (.deferred _) => cases empty

-- Piece by piece the texts have one length, so that they are different if two pieces are.
mutual
theorem comments_first_moves (raw : List String) : (node : Node) → node.safe raw →
    Moves node.plainText node.commentsFirst.plainText node.plainHtml
  | .text s, _ => moves_refl s
  | .reference _, safe => by cases safe
  | .element ⟨tag, attributes, body, comment⟩, safe => by
      have element := element_safe raw _ safe
      have inside := body_comments_first_moves raw body element.body
      have given : literalField comment := safe_field_literal _ comment element.comment
      rcases element.tag with rfl | ⟨name, rfl, named⟩
      · have moves := moves_append _ _ _ _ _ _
          (moves_refl (Render.commentText (comment.bind Value.literal?))) inside
        rw [untagged_comments_first, element_plain_text, element_plain_text]
        simp only [Node.plainHtml]
        exact moves
      · have emptied (single : Render.isSelfClosing name) : Node.bodyPlainHtml body = true :=
          empty_plain_html body (named.void (Dom.Builder.self_closing_void name single))
        rw [named_plain_text name named.word attributes body comment .empty,
          comments_first_named name named.word attributes body comment given .empty]
        have moves := named_moves name
          (Attributes.literals (fieldLiteral Attributes.empty attributes).entries) comment given _ _
          _ inside emptied
        simpa [Node.plainHtml, Value.literal?] using moves
theorem body_comments_first_moves (raw : List String) : (body : Option (Value (Body Node))) →
    Node.safeBody raw body →
    Moves (Node.plainBody body) (Node.plainBody (Node.bodyCommentsFirst body))
      (Node.bodyPlainHtml body)
  | none, _ => moves_refl ""
  | some (.deferred _), safe => by cases safe
  | some (.literal (.text s)), _ => moves_refl s
  | some (.literal (.nodes nodes)), safe => all_comments_first_moves raw nodes safe
theorem all_comments_first_moves (raw : List String) : (nodes : List Node) →
    Node.allSafe raw nodes →
    Moves (Node.plainTexts nodes) (Node.plainTexts (Node.allCommentsFirst nodes))
      (Node.allPlainHtml nodes)
  | [], _ => moves_refl ""
  | node :: rest, safe => by
      simp only [Node.allSafe, Bool.and_eq_true] at safe
      exact moves_append _ _ _ _ _ _ (comments_first_moves raw node safe.1)
        (all_comments_first_moves raw rest safe.2)
end

theorem rendered_round (node : Node) (registry : Registry) (limit again : Nat) (past : Trace)
    (safe : node.safe Dom.rawElements) (room : node.height + 1 ≤ limit)
    (deep : node.height + 2 ≤ again) :
    ∃ document, (Dom.parse ⟨false, limit⟩ node.plainText).outcome = .ok document ∧
      ((ofDocument document).render registry again).account past =
        ⟨.ok node.commentsFirst.plainText, past, []⟩ := by
  have parsed (limit : Nat) (room : 1 + node.height ≤ limit) := parse_rendered node limit safe room
  have nested := Dom.build_depth (1 + node.height) _ _ (parsed _ (Nat.le_refl _))
  have written := serialize_onto Dom.rawElements node safe []
  rw [List.reverse_nil, Dom.serializeAll, String.empty_append] at written
  refine ⟨(node.onto []).reverse, parsed limit (by omega), ?_⟩
  rw [render_document_deep _ registry again (by omega), written, Run.pure_account]

theorem rendered_text_settles (node : Node) (registry : Registry)
    (limit parseLimit again wide : Nat) (past : Trace) (safe : node.safe Dom.rawElements)
    (deep : node.height ≤ limit) (parseDeep : node.height + 1 ≤ parseLimit)
    (againDeep : node.height + 2 ≤ again) (wideDeep : node.commentsFirst.height + 2 ≤ wide) :
    ∃ text document changed later,
      (node.render registry limit).account past = ⟨.ok text, past, []⟩ ∧
      (Dom.parse ⟨false, parseLimit⟩ text).outcome = .ok document ∧
      ((ofDocument document).render registry again).account past = ⟨.ok changed, past, []⟩ ∧
      (changed = text ↔ node.plainHtml) ∧
      (node.commentsFirst.render registry wide).account past = ⟨.ok changed, past, []⟩ ∧
      (Dom.parse ⟨false, wide⟩ changed).outcome = .ok later ∧
      ((ofDocument later).render registry wide).account past = ⟨.ok changed, past, []⟩ := by
  have firstSafe := comments_first_safe _ node safe
  have settled := comments_first_plain _ (comments_first_plain_html node)
  obtain ⟨literal, closed⟩ := safe_settled _ node safe
  obtain ⟨firstLiteral, firstClosed⟩ := safe_settled _ _ firstSafe
  obtain ⟨document, parsed, rendered⟩ :=
    rendered_round node registry parseLimit again past safe parseDeep againDeep
  obtain ⟨later, parsedLater, renderedLater⟩ :=
    rendered_round node.commentsFirst registry wide wide past firstSafe (by omega) wideDeep
  rw [settled] at renderedLater
  refine ⟨node.plainText, document, node.commentsFirst.plainText, later, ?_, parsed, rendered, ?_,
    ?_, parsedLater, renderedLater⟩
  · rw [render_settled registry limit node literal closed, if_pos deep, Run.pure_account]
  · constructor
    · exact (comments_first_moves _ node safe).2
    · intro plain
      rw [comments_first_plain node plain]
  · rw [render_settled registry wide _ firstLiteral firstClosed, if_pos (by omega),
      Run.pure_account]

def tagged (name : String) (body : Body Node) (comment : Option String) : Node :=
  .element ⟨some (.literal name), none, some (.literal body), comment.map .literal⟩

def untagged (body : Body Node) (comment : Option String) : Node :=
  .element ⟨none, none, some (.literal body), comment.map .literal⟩

def link : Node :=
  .element ⟨some (.literal "a"), some (.literal (.ofList [("class", "x"), ("id", "<y>")])),
    some (.literal (.text "d")), some (.literal "e")⟩

-- Texts that meet across a fragment, comments before elements with and without content, and a
-- doctype in the middle.
def mixedNode : Node :=
  untagged
    (.nodes
      [.text "a", untagged (.nodes [.text "b>", tagged "br" .empty (some "c")]) (some ""), .text "",
        tagged "html" (.nodes [link, .text "f", .text "g"]) (some "i")])
    (some "h")

theorem mixed_node_settles :
    mixedNode.safe Dom.rawElements ∧ mixedNode.height = 2 ∧ mixedNode.commentsFirst.height = 3 ∧
      ∃ text document changed later,
        text = "<!--h-->a<!---->b><!--c--><br/><!DOCTYPE html><!--i--><html><!--e-->" ++
            "<a class=\"x\" id=\"<y>\">d</a>fg</html>" ∧
          (mixedNode.render .empty 2).account [] = ⟨.ok text, [], []⟩ ∧
          (Dom.parse ⟨false, 3⟩ text).outcome = .ok document ∧
          ((ofDocument document).render .empty 4).account [] = ⟨.ok changed, [], []⟩ ∧
          changed ≠ text ∧
          (mixedNode.commentsFirst.render .empty 5).account [] = ⟨.ok changed, [], []⟩ ∧
          (Dom.parse ⟨false, 5⟩ changed).outcome = .ok later ∧
          ((ofDocument later).render .empty 5).account [] = ⟨.ok changed, [], []⟩ := by
  have safe : mixedNode.safe Dom.rawElements := by decide +kernel
  have height : mixedNode.height = 2 := by decide +kernel
  have further : mixedNode.commentsFirst.height = 3 := by decide +kernel
  obtain ⟨text, document, changed, later, rendered, parsed, again, plain, more⟩ :=
    rendered_text_settles mixedNode .empty 2 3 4 5 [] safe (by omega) (by omega) (by omega)
      (by omega)
  refine ⟨safe, height, further, text, document, changed, later, ?_, rendered, parsed, again, ?_,
    more⟩
  · obtain ⟨literal, settled⟩ := safe_settled _ mixedNode safe
    rw [render_settled .empty 2 mixedNode literal settled, if_pos (by omega), Run.pure_account]
      at rendered
    have same : mixedNode.plainText = text := Except.ok.inj (congrArg Account.outcome rendered)
    rw [← same]
    decide +kernel
  · intro same
    exact absurd (plain.mp same) (by decide +kernel)

def remarkedPage : Node :=
  tagged "html" .empty (some "c")

def framedFrame : Node :=
  tagged "noframe" (.nodes [tagged "noframe" .empty none]) none

def Changes (node : Node) (text changed : String) : Prop :=
  ∃ document,
    (node.render .empty Render.defaultLimit).account [] = ⟨.ok text, [], []⟩ ∧
      (Dom.parse .default text).outcome = .ok document ∧
      ((ofDocument document).render .empty Render.defaultLimit).account [] =
        ⟨.ok changed, [], []⟩ ∧
      changed ≠ text

theorem remarked_and_framed_text_changes :
    remarkedPage.safe Dom.textElements ∧ framedFrame.safe Dom.textElements ∧
      Changes remarkedPage "<!DOCTYPE html><!--c--><html></html>"
        "<!--c--><!DOCTYPE html><html></html>" ∧
      Changes framedFrame "<noframe><noframe></noframe></noframe>"
        "<noframe><noframe></noframe>" := by
  refine ⟨by decide +kernel, by decide +kernel, ?_, ?_⟩
  · exact ⟨[.doctype "html", .comment "c", .element "html" [] []], rfl, rfl, rfl, by decide⟩
  · exact ⟨[.element "noframe" [] [.text "<noframe>"]], rfl, rfl, rfl, by decide⟩

end HtmlTemplate
