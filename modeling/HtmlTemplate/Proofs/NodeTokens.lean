import HtmlTemplate.Proofs.TreeTokens

/-!
Nodes whose text is read as it is meant. Nodes and markup are divided differently: a fragment leaves
no mark, texts that meet are one text, and a comment stands before its element, behind the doctype
if there is one.
-/

set_option autoImplicit false

namespace HtmlTemplate

open Markup (Token Found Reads isWord lacks)

namespace Node

def safeText (s : String) : Bool :=
  lacks s ['<', '&', '\r', '\x00']

def safeComment (s : String) : Bool :=
  lacks s ['-', '<', '>', '\r', '\x00']

def safeTag (raw : List String) (name : String) : Bool :=
  isWord [] name && name ≠ "plaintext" && !raw.contains name

def safeField (fits : String → Bool) : Option (Value String) → Bool
  | none => true
  | some (.literal s) => fits s
  | some (.deferred _) => false

def safeMapping (mapping : Option (Value Attributes)) : Bool :=
  literalMapping mapping &&
    Dom.safeAttributes (Attributes.literals (fieldLiteral Attributes.empty mapping).entries)

def emptyBody : Option (Value (Body Node)) → Bool
  | none => true
  | some (.literal (.text s)) => s = ""
  | some (.literal (.nodes nodes)) => nodes.isEmpty
  | some (.deferred _) => false

mutual
-- Nodes without references and deferred values in which every text, comment, name and value is
-- read as it is meant, given the elements that are not read as markup.
def safe (raw : List String) : Node → Bool
  | .text s => safeText s
  | .reference _ => false
  | .element ⟨tag, attributes, body, comment⟩ =>
    safeField (safeTag raw) tag && safeMapping attributes && safeField safeComment comment &&
      (!(tag.bind Value.literal?).any Dom.isVoid || emptyBody body) && safeBody raw body
def safeBody (raw : List String) : Option (Value (Body Node)) → Bool
  | none => true
  | some (.literal (.text s)) => safeText s
  | some (.literal (.nodes nodes)) => allSafe raw nodes
  | some (.deferred _) => false
def allSafe (raw : List String) : List Node → Bool
  | [] => true
  | node :: rest => safe raw node && allSafe raw rest
end

def textTokens (s : String) : List Token :=
  if s = "" then [] else [.text s]

def commentTokens : Option (Value String) → List Token
  | some (.literal s) => [.comment s]
  | _ => []

def elementTokens (tag : Option (Value String)) (attributes : List (String × String))
    (comment : Option (Value String)) (content : List Token) : List Token :=
  match tag with
  | some (.literal name) =>
    (if name = "html" then [.doctype "html"] else []) ++ (commentTokens comment ++
      if Render.isSelfClosing name then [.startTag name attributes true]
      else .startTag name attributes false :: (content ++ [.endTag name]))
  | _ => commentTokens comment ++ content

mutual
def tokens : Node → List Token
  | .text s => textTokens s
  | .reference _ => []
  | .element ⟨tag, attributes, body, comment⟩ =>
    elementTokens tag (Attributes.literals (fieldLiteral Attributes.empty attributes).entries)
      comment (bodyTokens body)
def bodyTokens : Option (Value (Body Node)) → List Token
  | some (.literal (.text s)) => textTokens s
  | some (.literal (.nodes nodes)) => allTokens nodes
  | _ => []
def allTokens : List Node → List Token
  | [] => []
  | node :: rest => tokens node ++ allTokens rest
end

def textOnto (s : String) (before : List Dom) : List Dom :=
  if s = "" then before else Dom.Builder.joinText s before

def commentOnto (comment : Option (Value String)) (before : List Dom) : List Dom :=
  match comment with
  | some (.literal s) => .comment s :: before
  | _ => before

def elementOnto (tag : Option (Value String)) (attributes : List (String × String))
    (comment : Option (Value String)) (content : List Dom → List Dom) (before : List Dom) :
    List Dom :=
  match tag with
  | some (.literal name) =>
    .element name attributes (content []).reverse ::
      commentOnto comment (if name = "html" then .doctype "html" :: before else before)
  | _ => content (commentOnto comment before)

mutual
-- What is built of a node's tokens behind what is there, the latest first.
def onto : Node → List Dom → List Dom
  | .text s, before => textOnto s before
  | .reference _, before => before
  | .element ⟨tag, attributes, body, comment⟩, before =>
    elementOnto tag (Attributes.literals (fieldLiteral Attributes.empty attributes).entries)
      comment (fun before => bodyOnto body before) before
def bodyOnto : Option (Value (Body Node)) → List Dom → List Dom
  | some (.literal (.text s)), before => textOnto s before
  | some (.literal (.nodes nodes)), before => allOnto nodes before
  | _, before => before
def allOnto : List Node → List Dom → List Dom
  | [], before => before
  | node :: rest, before => allOnto rest (onto node before)
end

end Node

structure SafeName (raw : List String) (e : Element Node) (name : String) : Prop where
  word : isWord [] name
  bounded : name ≠ "plaintext"
  markup : name ∉ raw
  void : Dom.isVoid name → Node.emptyBody e.body

structure Element.Safe (raw : List String) (e : Element Node) : Prop where
  tag : e.tag = none ∨ ∃ name, e.tag = some (.literal name) ∧ SafeName raw e name
  mapping : literalMapping e.attributes
  attributes :
    Dom.safeAttributes (Attributes.literals (fieldLiteral Attributes.empty e.attributes).entries)
  comment : Node.safeField Node.safeComment e.comment
  body : Node.safeBody raw e.body

theorem safe_field_forms (fits : String → Bool) (field : Option (Value String))
    (safe : Node.safeField fits field) :
    field = none ∨ ∃ s, field = some (.literal s) ∧ fits s := by
  match field with
  | none => exact .inl rfl
  | some (.literal s) => exact .inr ⟨s, rfl, safe⟩
  | some (.deferred _) => cases safe

theorem safe_field_literal (fits : String → Bool) (field : Option (Value String))
    (safe : Node.safeField fits field) : literalField field := by
  rcases safe_field_forms fits field safe with rfl | ⟨s, rfl, _⟩ <;> rfl

theorem element_safe (raw : List String) (e : Element Node) (safe : (Node.element e).safe raw) :
    e.Safe raw := by
  obtain ⟨tag, attributes, body, comment⟩ := e
  simp only [Node.safe, Node.safeMapping, Bool.and_eq_true, Bool.or_eq_true,
    Bool.not_eq_true'] at safe
  obtain ⟨⟨⟨⟨tagSafe, mapping, attributesSafe⟩, commentSafe⟩, void⟩, bodySafe⟩ := safe
  refine ⟨?_, mapping, attributesSafe, commentSafe, bodySafe⟩
  rcases safe_field_forms _ tag tagSafe with absent | ⟨name, rfl, named⟩
  · exact .inl absent
  · simp only [Node.safeTag, Bool.and_eq_true, decide_eq_true_eq, Bool.not_eq_true',
      List.contains_eq_mem, decide_eq_false_iff_not] at named
    refine .inr ⟨name, rfl, named.1.1, named.1.2, named.2, fun held => ?_⟩
    refine void.resolve_left fun other => ?_
    simp [Value.literal?, held] at other

mutual
theorem safe_settled (raw : List String) : (node : Node) → node.safe raw →
    node.literal ∧ node.settled
  | .text s, _ => ⟨rfl, rfl⟩
  | .reference _, safe => by cases safe
  | .element ⟨tag, attributes, body, comment⟩, safe => by
      have element := element_safe raw _ safe
      obtain ⟨bodyLiteral, bodySettled⟩ := safe_body_settled raw body element.body
      have tagLiteral : literalField tag := by
        rcases element.tag with rfl | ⟨name, rfl, _⟩ <;> rfl
      have commentLiteral : literalField comment := safe_field_literal _ comment element.comment
      simp only [Node.literal, Node.settled, Bool.and_eq_true, Bool.or_eq_true]
      exact ⟨⟨⟨⟨tagLiteral, element.mapping⟩, bodyLiteral⟩, commentLiteral⟩, .inr bodySettled⟩
theorem safe_body_settled (raw : List String) : (body : Option (Value (Body Node))) →
    Node.safeBody raw body → Node.literalBody body ∧ Node.settledBody body
  | none, _ => ⟨rfl, rfl⟩
  | some (.deferred _), safe => by cases safe
  | some (.literal (.text _)), _ => ⟨rfl, rfl⟩
  | some (.literal (.nodes nodes)), safe => all_safe_settled raw nodes safe
theorem all_safe_settled (raw : List String) : (nodes : List Node) →
    Node.allSafe raw nodes → Node.allLiteral nodes ∧ Node.allSettled nodes
  | [], _ => ⟨rfl, rfl⟩
  | node :: rest, safe => by
      simp only [Node.allSafe, Bool.and_eq_true] at safe
      obtain ⟨literal, settled⟩ := safe_settled raw node safe.1
      obtain ⟨restLiteral, restSettled⟩ := all_safe_settled raw rest safe.2
      simp only [Node.allLiteral, Node.allSettled, Bool.and_eq_true]
      exact ⟨⟨literal, restLiteral⟩, settled, restSettled⟩
end

theorem word_tag (name : String) (word : isWord [] name) : normalizeTag name = some name := by
  rw [normalize_tag_named name (Dom.word_named name word), Dom.written_tag_word name word]

theorem wrap_named (name : String) (attributes : List (String × String)) (body : Body Node)
    (comment : Option String) (content : String) :
    ResolvedElement.wrap ⟨some name, attributes, body, comment⟩ content =
      (if name = "html" then "<!DOCTYPE html>" else "") ++ (Render.commentText comment ++
        (("<" ++ name ++ Render.attributesText attributes ++
          if Render.isSelfClosing name then "/>" else ">") ++
        if Render.isSelfClosing name then "" else content ++ ("</" ++ name ++ ">"))) := by
  by_cases single : Render.isSelfClosing name <;>
    simp [ResolvedElement.wrap, single, Render.openingText, Render.closingText, Render.doctype,
      String.append_assoc]

theorem untagged_tokens (attributes : List (String × String)) (comment : Option (Value String))
    (content : List Token) :
    Node.elementTokens none attributes comment content = Node.commentTokens comment ++ content :=
  rfl

theorem text_reads (found : Found) (s : String) (safe : Node.safeText s) :
    Reads ⟨.data, 0, found⟩ s.toList ⟨.data, 0, found.takeAll (Node.textTokens s)⟩ := by
  have read := Reads.data_text found s safe
  unfold Node.textTokens
  split
  · rename_i empty
    subst empty
    exact Reads.nil _
  · exact read

theorem comment_reads (found : Found) (comment : Option (Value String))
    (safe : Node.safeField Node.safeComment comment) :
    Reads ⟨.data, 0, found⟩ (Render.commentText (comment.bind Value.literal?)).toList
      ⟨.data, 0, found.takeAll (Node.commentTokens comment)⟩ := by
  rcases safe_field_forms _ comment safe with rfl | ⟨s, rfl, plain⟩
  · exact Reads.nil _
  · exact Reads.comment found s plain

theorem markup_state (name : String) (bounded : name ≠ "plaintext")
    (markup : name ∉ Dom.rawElements) : Markup.stateAfter name = .data := by
  rcases Dom.state_after name bounded with data | ⟨_, _, _, raw, _⟩
  · exact data
  · exact absurd raw markup

theorem named_reads (name : String) (e : Element Node) (safe : e.Safe Dom.rawElements)
    (named : SafeName Dom.rawElements e name) (content : String) (inside : List Token)
    (read : ∀ found, Reads ⟨.data, 0, found⟩ content.toList ⟨.data, 0, found.takeAll inside⟩)
    (found : Found) :
    let attributes := Attributes.literals (fieldLiteral Attributes.empty e.attributes).entries
    let resolved : ResolvedElement :=
      ⟨some name, attributes, fieldLiteral .empty e.body, e.comment.bind Value.literal?⟩
    Reads ⟨.data, 0, found⟩ (resolved.wrap content).toList
      ⟨.data, 0, found.takeAll
        (Node.elementTokens (some (.literal name)) attributes e.comment inside)⟩ := by
  intro attributes resolved
  obtain ⟨sorted, plain⟩ := Dom.safe_attributes attributes safe.attributes
  have state := markup_state name named.bounded named.markup
  rw [wrap_named, Node.elementTokens, String.toList_append, String.toList_append,
    String.toList_append, Dom.take_all_append, Dom.take_all_append]
  refine Reads.append (Dom.html_doctype_reads name found) ?_
  refine Reads.append (comment_reads _ e.comment safe.comment) ?_
  refine Reads.append (Reads.start_tag _ name attributes (Render.isSelfClosing name) named.word
    sorted plain) ?_
  rw [state]
  by_cases single : Render.isSelfClosing name
  · rw [if_pos single, if_pos single, single]
    exact Reads.nil _
  · rw [Bool.not_eq_true] at single
    simp only [single, Bool.false_eq_true, if_false]
    rw [Dom.take_all_cons, String.toList_append, Dom.take_all_append]
    exact Reads.append (read _) (Reads.end_tag _ name named.word)

theorem untagged_reads (attributes : List (String × String)) (body : Body Node)
    (comment : Option (Value String)) (safe : Node.safeField Node.safeComment comment)
    (content : String) (inside : List Token)
    (read : ∀ found, Reads ⟨.data, 0, found⟩ content.toList ⟨.data, 0, found.takeAll inside⟩)
    (found : Found) :
    Reads ⟨.data, 0, found⟩
      (ResolvedElement.wrap ⟨none, attributes, body, comment.bind Value.literal?⟩ content).toList
      ⟨.data, 0, found.takeAll (Node.elementTokens none attributes comment inside)⟩ := by
  rw [untagged_tokens, ResolvedElement.wrap, String.toList_append, Dom.take_all_append]
  exact Reads.append (comment_reads found comment safe) (read _)

mutual
-- Reading what a node is rendered to gives its tokens, whatever was read before.
theorem node_reads : (node : Node) → node.safe Dom.rawElements → (found : Found) →
    Reads ⟨.data, 0, found⟩ node.plainText.toList ⟨.data, 0, found.takeAll node.tokens⟩
  | .text s, safe, found => text_reads found s safe
  | .reference _, safe, _ => by cases safe
  | .element ⟨tag, attributes, body, comment⟩, safe, found => by
      have element := element_safe _ _ safe
      have inside := body_reads body element.body
      rw [element_plain_text, Element.resolved, Node.tokens]
      rcases element.tag with rfl | ⟨name, rfl, named⟩
      · exact untagged_reads _ _ comment element.comment _ _ inside found
      · rw [fieldLiteral, word_tag name named.word]
        exact named_reads name _ element named _ _ inside found
theorem body_reads : (body : Option (Value (Body Node))) → Node.safeBody Dom.rawElements body →
    (found : Found) →
    Reads ⟨.data, 0, found⟩ (Node.plainBody body).toList
      ⟨.data, 0, found.takeAll (Node.bodyTokens body)⟩
  | none, _, _ => Reads.nil _
  | some (.deferred _), safe, _ => by cases safe
  | some (.literal (.text s)), safe, found => text_reads found s safe
  | some (.literal (.nodes nodes)), safe, found => all_read nodes safe found
theorem all_read : (nodes : List Node) → Node.allSafe Dom.rawElements nodes → (found : Found) →
    Reads ⟨.data, 0, found⟩ (Node.plainTexts nodes).toList
      ⟨.data, 0, found.takeAll (Node.allTokens nodes)⟩
  | [], _, _ => Reads.nil _
  | node :: rest, safe, found => by
      simp only [Node.allSafe, Bool.and_eq_true] at safe
      rw [Node.plainTexts, Node.allTokens, String.toList_append, Dom.take_all_append]
      exact Reads.append (node_reads node safe.1 found) (all_read rest safe.2 _)
end

def Markup.Token.plain (token : Token) : Prop :=
  token.isFlaw = false ∧ token ≠ .text ""

theorem text_tokens_plain (s : String) : ∀ token ∈ Node.textTokens s, token.plain := by
  intro token member
  unfold Node.textTokens at member
  split at member
  · cases member
  · rename_i written
    obtain rfl := List.mem_singleton.mp member
    exact ⟨rfl, fun same => written (Token.text.inj same)⟩

theorem element_tokens_plain (tag : Option (Value String)) (attributes : List (String × String))
    (comment : Option (Value String)) (content : List Token)
    (inside : ∀ token ∈ content, token.plain) :
    ∀ token ∈ Node.elementTokens tag attributes comment content, token.plain := by
  have told : ∀ token ∈ Node.commentTokens comment, token.plain := by
    unfold Node.commentTokens
    split
    · simp [Token.plain, Token.isFlaw]
    · exact List.forall_mem_nil _
  unfold Node.elementTokens
  split
  · rename_i name
    refine List.forall_mem_append.mpr ⟨?_, List.forall_mem_append.mpr ⟨told, ?_⟩⟩
    · split <;> simp [Token.plain, Token.isFlaw]
    · split
      · simp [Token.plain, Token.isFlaw]
      · refine List.forall_mem_cons.mpr ⟨?_, List.forall_mem_append.mpr ⟨inside, ?_⟩⟩ <;>
          simp [Token.plain, Token.isFlaw]
  · exact List.forall_mem_append.mpr ⟨told, inside⟩

mutual
theorem node_tokens_plain : (node : Node) → ∀ token ∈ node.tokens, token.plain
  | .text s => text_tokens_plain s
  | .reference _ => List.forall_mem_nil _
  | .element ⟨tag, _, body, comment⟩ =>
      element_tokens_plain tag _ comment _ (body_tokens_plain body)
theorem body_tokens_plain : (body : Option (Value (Body Node))) →
    ∀ token ∈ Node.bodyTokens body, token.plain
  | none => List.forall_mem_nil _
  | some (.deferred _) => List.forall_mem_nil _
  | some (.literal (.text s)) => text_tokens_plain s
  | some (.literal (.nodes nodes)) => all_tokens_plain nodes
theorem all_tokens_plain : (nodes : List Node) → ∀ token ∈ Node.allTokens nodes, token.plain
  | [] => List.forall_mem_nil _
  | node :: rest =>
      List.forall_mem_append.mpr ⟨node_tokens_plain node, all_tokens_plain rest⟩
end

section Building

open Dom (Builder)

variable (options : Dom.Options)

theorem modify_current_same (b : Builder) (f : List Dom → List Dom) (same : ∀ nodes, f nodes = nodes) :
    b.modifyCurrent f = b := by
  obtain ⟨opened, top, notices⟩ := b
  cases opened <;> simp [Builder.modifyCurrent, same]

theorem text_tokens_run (b : Builder) (s : String) (more : List Token) :
    b.run options (Node.textTokens s ++ more) =
      (b.modifyCurrent (Node.textOnto s)).run options more := by
  by_cases empty : s = ""
  · rw [modify_current_same b (Node.textOnto s) fun nodes => if_pos empty, Node.textTokens, if_pos empty,
      List.nil_append]
  · have joined : Node.textOnto s = Builder.joinText s := funext fun before => if_neg empty
    rw [joined, Node.textTokens, if_neg empty]
    rfl

theorem comment_tokens_run (b : Builder) (comment : Option (Value String)) (more : List Token) :
    b.run options (Node.commentTokens comment ++ more) =
      (b.modifyCurrent (Node.commentOnto comment)).run options more := by
  match comment with
  | some (.literal s) => rfl
  | none =>
      rw [modify_current_same b (Node.commentOnto none) fun _ => rfl]
      rfl
  | some (.deferred d) =>
      rw [modify_current_same b (Node.commentOnto (some (.deferred d))) fun _ => rfl]
      rfl

theorem front_tokens_run (b : Builder) (name : String) (comment : Option (Value String))
    (more : List Token) :
    b.run options ((if name = "html" then [.doctype "html"] else []) ++
        (Node.commentTokens comment ++ more)) =
      (b.modifyCurrent fun before => Node.commentOnto comment
        (if name = "html" then .doctype "html" :: before else before)).run options more := by
  rw [Builder.run_html_doctype, comment_tokens_run]
  by_cases html : name = "html"
  · simp only [html, if_true, Builder.pushAll, Builder.modify_current_twice, List.reverse_singleton,
      List.singleton_append]
  · simp only [html, if_false, Builder.pushAll, Builder.modify_current_twice, List.reverse_nil,
      List.nil_append]

theorem entered_current (b : Builder) (name : String) (attributes : List (String × String))
    (f : List Dom → List Dom) :
    (b.enter name attributes).modifyCurrent f = (b.enter name attributes).pushAll (f []).reverse := by
  simp [Builder.enter, Builder.modifyCurrent, Builder.pushAll]

theorem empty_body_tokens (body : Option (Value (Body Node))) (empty : Node.emptyBody body) :
    Node.bodyTokens body = [] ∧ ∀ before, Node.bodyOnto body before = before := by
  match body with
  | none => exact ⟨rfl, fun _ => rfl⟩
  | some (.literal (.text s)) =>
      obtain rfl : s = "" := of_decide_eq_true empty
      exact ⟨rfl, fun _ => rfl⟩
  | some (.literal (.nodes nodes)) =>
      obtain rfl := List.isEmpty_iff.mp empty
      exact ⟨rfl, fun _ => rfl⟩
  | some (.deferred _) => cases empty

theorem open_element_run (b : Builder) (name : String) (attributes : List (String × String))
    (inside more : List Token) (content : List Dom → List Dom) (lasting : Dom.isVoid name = false)
    (room : b.names.length < options.limit)
    (filled : (b.enter name attributes).run options (inside ++ .endTag name :: more) =
      ((b.enter name attributes).modifyCurrent content).run options (.endTag name :: more)) :
    b.run options (.startTag name attributes false :: (inside ++ .endTag name :: more)) =
      (b.pushAll [.element name attributes (content []).reverse]).run options more := by
  have length : b.names.length = b.opened.length := List.length_map _
  have free : ¬ options.limit ≤ b.opened.length := by omega
  have entered : b.step options (.startTag name attributes false) = .ok (b.enter name attributes) := by
    simp [Builder.step, Builder.startTag, lasting, free, Builder.enter]
  simp only [Builder.run, entered]
  rw [filled, entered_current]
  simp only [Builder.run, Builder.leave_entered]

theorem named_tokens_run (raw : List String) (b : Builder) (e : Element Node) (name : String)
    (attributes : List (String × String)) (named : SafeName raw e name)
    (room : b.names.length + (1 + (if Render.isSelfClosing name then 0 else Node.bodyHeight e.body)) ≤
      options.limit)
    (content : ∀ name ∈ b.names, Dom.isVoid name = false)
    (inside : ∀ inner : Builder,
      inner.names.length + Node.bodyHeight e.body ≤ options.limit →
      (∀ name ∈ inner.names, Dom.isVoid name = false) → ∀ more : List Token,
      inner.run options (Node.bodyTokens e.body ++ more) =
        (inner.modifyCurrent (Node.bodyOnto e.body)).run options more)
    (more : List Token) :
    b.run options (Node.elementTokens (some (.literal name)) attributes e.comment
        (Node.bodyTokens e.body) ++ more) =
      (b.modifyCurrent (Node.elementOnto (some (.literal name)) attributes e.comment
        (fun before => Node.bodyOnto e.body before))).run options more := by
  rw [Node.elementTokens, List.append_assoc, List.append_assoc, front_tokens_run]
  have placed : b.modifyCurrent (Node.elementOnto (some (.literal name)) attributes e.comment
        (fun before => Node.bodyOnto e.body before)) =
      (b.modifyCurrent fun before => Node.commentOnto e.comment
        (if name = "html" then .doctype "html" :: before else before)).pushAll
          [.element name attributes (Node.bodyOnto e.body []).reverse] := by
    rw [Builder.pushAll, Builder.modify_current_twice]
    rfl
  have names := Builder.modify_current_names b fun before => Node.commentOnto e.comment
    (if name = "html" then .doctype "html" :: before else before)
  rw [placed]
  generalize (b.modifyCurrent fun before => Node.commentOnto e.comment
    (if name = "html" then .doctype "html" :: before else before)) = front at names ⊢
  rw [← names] at room content
  cases void : Dom.isVoid name with
  | true =>
      obtain ⟨untold, unbuilt⟩ := empty_body_tokens e.body (named.void void)
      rw [untold, unbuilt]
      exact Builder.run_void_element options front name attributes more void content
  | false =>
      have single : Render.isSelfClosing name = false := by
        rw [← Bool.not_eq_true]
        intro single
        rw [Builder.self_closing_void name single] at void
        cases void
      simp only [single, Bool.false_eq_true, if_false] at room ⊢
      have entered := Builder.enter_ready options.limit front name attributes
        (Node.bodyHeight e.body) false room void content
      rw [List.cons_append, List.append_assoc, List.singleton_append]
      exact open_element_run options front name attributes _ more (Node.bodyOnto e.body) void
        (by omega) (inside _ entered.room entered.content _)

theorem element_onto (tag : Option (Value String)) (attributes : Option (Value Attributes))
    (body : Option (Value (Body Node))) (comment : Option (Value String)) :
    (Node.element ⟨tag, attributes, body, comment⟩).onto =
      Node.elementOnto tag
        (Attributes.literals (fieldLiteral Attributes.empty attributes).entries) comment
        (fun before => Node.bodyOnto body before) :=
  rfl

theorem untagged_onto (attributes : List (String × String)) (comment : Option (Value String))
    (content : List Dom → List Dom) :
    Node.elementOnto none attributes comment content =
      fun before => content (Node.commentOnto comment before) :=
  rfl

mutual
theorem node_tokens_run (raw : List String) : (node : Node) → node.safe raw → (b : Builder) →
    b.names.length + (1 + node.height) ≤ options.limit →
    (∀ name ∈ b.names, Dom.isVoid name = false) → (more : List Token) →
    b.run options (node.tokens ++ more) = (b.modifyCurrent node.onto).run options more
  | .text s, _, b, _, _, more => text_tokens_run options b s more
  | .reference _, safe, _, _, _, _ => by cases safe
  | .element ⟨tag, attributes, body, comment⟩, safe, b, room, content, more => by
      have element := element_safe raw _ safe
      have inside := body_tokens_run raw body element.body
      rw [element_height] at room
      rw [Node.tokens, element_onto]
      rcases element.tag with rfl | ⟨name, rfl, named⟩
      · have bodied : Node.bodiless none = false := by decide
        have names := Builder.modify_current_names b (Node.commentOnto comment)
        simp only [bodied, Bool.false_eq_true, if_false] at room
        rw [untagged_tokens, untagged_onto, List.append_assoc, comment_tokens_run,
          inside _ (by rw [names]; omega) (names ▸ content), Builder.modify_current_twice]
      · have single : Node.bodiless (some (.literal name)) = Render.isSelfClosing name := by
          rw [Node.bodiless, fieldLiteral, word_tag name named.word]
          rfl
        rw [single] at room
        exact named_tokens_run options raw b _ name _ named room content inside more
theorem body_tokens_run (raw : List String) : (body : Option (Value (Body Node))) →
    Node.safeBody raw body → (b : Builder) →
    b.names.length + Node.bodyHeight body ≤ options.limit →
    (∀ name ∈ b.names, Dom.isVoid name = false) → (more : List Token) →
    b.run options (Node.bodyTokens body ++ more) =
      (b.modifyCurrent (Node.bodyOnto body)).run options more
  | none, _, b, _, _, more => by
      rw [modify_current_same b (Node.bodyOnto none) fun _ => rfl]
      rfl
  | some (.deferred _), safe, _, _, _, _ => by cases safe
  | some (.literal (.text s)), _, b, _, _, more => text_tokens_run options b s more
  | some (.literal (.nodes nodes)), safe, b, room, content, more =>
      all_tokens_run raw nodes safe b room content more
theorem all_tokens_run (raw : List String) : (nodes : List Node) → Node.allSafe raw nodes →
    (b : Builder) → b.names.length + Node.levels nodes ≤ options.limit →
    (∀ name ∈ b.names, Dom.isVoid name = false) → (more : List Token) →
    b.run options (Node.allTokens nodes ++ more) =
      (b.modifyCurrent (Node.allOnto nodes)).run options more
  | [], _, b, _, _, more => by
      rw [modify_current_same b (Node.allOnto []) fun _ => rfl]
      rfl
  | node :: rest, safe, b, room, content, more => by
      simp only [Node.allSafe, Bool.and_eq_true] at safe
      simp only [Node.levels] at room
      have first := node_tokens_run raw node safe.1 b (by omega) content
      have names := Builder.modify_current_names b node.onto
      have others := all_tokens_run raw rest safe.2 (b.modifyCurrent node.onto)
        (by rw [names]; omega) (names ▸ content) more
      rw [Node.allTokens, List.append_assoc, first, others, Builder.modify_current_twice]
      rfl
end

end Building

end HtmlTemplate
