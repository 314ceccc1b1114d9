import HtmlTemplate.Proofs.RoundTrip
import HtmlTemplate.Proofs.StackReplay

/-!
The limit of parsing against the limit of rendering. Parsing counts the elements that are open at
once, and rendering counts the levels of nodes, the leaves and a fragment around the whole document
included. What is parsed within a limit is rendered within the next one, but not always within the
same.
-/

set_option autoImplicit false

namespace HtmlTemplate

open Node (ofDom ofDoms ofDocument)

namespace Dom

open Markup (Token)

theorem step_lines (r : Replay) (token : Token) :
    ∀ line ∈ (r.step token).lines, line ∈ r.lines ∨ line.level = r.opened.length := by
  have recorded (item : Item) :
      ∀ line ∈ (r.record item).lines, line ∈ r.lines ∨ line.level = r.opened.length := by
    intro line member
    rcases List.mem_append.mp member with earlier | added
    · exact .inl earlier
    · obtain rfl := List.mem_singleton.mp added
      exact .inr rfl
  cases token with
  | startTag name attributes selfClosing =>
      rw [Replay.step]
      split <;> exact recorded (.element name attributes)
  | endTag name =>
      rw [Replay.step, Replay.leave]
      split <;> exact fun line member => .inl member
  | text s => exact recorded (.text s)
  | comment s => exact recorded (.comment s)
  | doctype name => exact recorded (.doctype name)
  | flaw flaw => exact fun line member => .inl member

theorem run_lines (limit : Nat) (tokens : List Token) (r : Replay)
    (within : r.opened.length ≤ limit) (held : ∀ line ∈ r.lines, line.level ≤ limit)
    (fits : ¬ r.Overflows limit tokens) : ∀ line ∈ (r.run tokens).lines, line.level ≤ limit := by
  induction tokens generalizing r with
  | nil => exact held
  | cons token rest ih =>
      refine ih (r.step token) ?_ ?_ ?_
      · refine Nat.le_of_not_lt fun exceeds => fits ?_
        exact Replay.overflows_at_once limit r token rest exceeds
      · intro line member
        rcases step_lines r token line member with earlier | current
        · exact held line earlier
        · exact current ▸ within
      · rwa [← Replay.overflows_cons limit r token rest within]

theorem onto_levels (limit : Nat) (line : Line) (earlier : List Line)
    (own : line.level ≤ limit) (held : ∀ other ∈ earlier, other.level ≤ limit) :
    ∀ other ∈ line.onto earlier, other.level ≤ limit := by
  have added : ∀ other ∈ line :: earlier, other.level ≤ limit :=
    List.forall_mem_cons.mpr ⟨own, held⟩
  unfold Line.onto
  split
  · split
    · exact List.forall_mem_cons.mpr ⟨own, (List.forall_mem_cons.mp held).2⟩
    · exact added
  · exact added

theorem join_texts_levels (limit : Nat) (lines : List Line)
    (held : ∀ line ∈ lines, line.level ≤ limit) :
    ∀ line ∈ Line.joinTexts lines, line.level ≤ limit := by
  induction lines using List.reverseRecOn with
  | nil => exact fun line member => absurd member List.not_mem_nil
  | append_singleton lines line ih =>
      obtain ⟨earlier, own⟩ := List.forall_mem_append.mp held
      have joined := onto_levels limit line (Line.joinTexts lines).reverse (own line (by simp))
        fun other member => ih earlier other (List.mem_reverse.mp member)
      intro other member
      rw [Line.join_texts_concat, List.mem_reverse] at member
      exact joined other member

mutual
theorem outline_depth (limit level : Nat) : (node : Dom) →
    (∀ line ∈ outline level node, line.level ≤ limit) → level + node.depth ≤ limit
  | .text s, held => held ⟨level, .text s⟩ (List.mem_singleton_self _)
  | .comment s, held => held ⟨level, .comment s⟩ (List.mem_singleton_self _)
  | .doctype name, held => held ⟨level, .doctype name⟩ (List.mem_singleton_self _)
  | .element name attributes children, held => by
      obtain ⟨own, inside⟩ := List.forall_mem_cons.mp held
      by_cases empty : children = []
      · rw [empty]
        exact own
      · have deep := outline_of_depth limit (level + 1) children empty inside
        rw [element_depth name attributes children empty]
        omega
theorem outline_of_depth (limit level : Nat) : (nodes : List Dom) → nodes ≠ [] →
    (∀ line ∈ outlineOf level nodes, line.level ≤ limit) → level + depthOf nodes ≤ limit
  | [], inhabited, _ => absurd rfl inhabited
  | node :: rest, _, held => by
      rw [outlineOf, List.forall_mem_append] at held
      have first := outline_depth limit level node held.1
      by_cases empty : rest = []
      · rw [empty, depthOf, depthOf]
        omega
      · have others := outline_of_depth limit level rest empty held.2
        rw [depthOf]
        omega
end

theorem build_depth (limit : Nat) (tokens : List Token) (document : List Dom)
    (built : (build ⟨false, limit⟩ tokens).outcome = .ok document) : depthOf document ≤ limit := by
  have accepted : Options.strict ⟨false, limit⟩ → ∀ flaw, .flaw flaw ∉ tokens := by
    intro strict
    cases strict
  rcases build_follows ⟨false, limit⟩ tokens accepted with
    ⟨_, failed⟩ | ⟨fits, b, finished, follows⟩
  · cases built.symm.trans failed
  · obtain rfl : b.finish.top.reverse = document := Except.ok.inj (finished.symm.trans built)
    have levels := run_lines limit tokens .start (Nat.zero_le _) (List.forall_mem_nil _) fits
    have lines := join_texts_levels limit _ levels
    rw [← follows.outline, ← Builder.finished_outline] at lines
    generalize b.finish.top.reverse = document at lines ⊢
    by_cases empty : document = []
    · rw [empty]
      exact Nat.zero_le _
    · simpa using outline_of_depth limit 0 document empty lines

-- Whether the nodes of a document can be rendered with a limit: one alone, or each in a fragment
-- around all of them.
def printable (limit : Nat) (document : List Dom) : Bool :=
  match document.dropWhile (·.kind = .doctype) with
  | [] => true
  | [_] => true
  | several => several.all fun node => (ofDom node).height < limit

end Dom

theorem of_doms_levels_le (limit : Nat) (nodes : List Dom) :
    Node.levels (ofDoms nodes) ≤ limit ↔ ∀ node ∈ nodes, (ofDom node).height < limit := by
  induction nodes with
  | nil => simp [ofDoms, Node.levels]
  | cons node rest ih =>
      rw [ofDoms, Node.levels, Nat.max_le, ih, List.forall_mem_cons, Nat.add_comm, Nat.succ_le_iff]

theorem of_document_printable (limit : Nat) (document : List Dom)
    (nested : Dom.depthOf document ≤ limit) :
    (ofDocument document).height ≤ limit ↔ Dom.printable limit document := by
  have kept := drop_while_depth (·.kind = .doctype) document
  unfold ofDocument Dom.printable
  generalize document.dropWhile (·.kind = .doctype) = nodes at kept ⊢
  match nodes with
  | [] => simp [Node.empty, Node.height]
  | [node] =>
      have bound := of_dom_height node
      simp only [Dom.depthOf] at kept
      have fits : (ofDom node).height ≤ limit := by omega
      exact iff_of_true fits rfl
  | first :: second :: rest =>
      have fragment : Node.bodiless none = false := by decide
      simp only [element_height, fragment, Bool.false_eq_true, if_false, Node.bodyHeight,
        of_doms_levels_le, List.all_eq_true, decide_eq_true_eq]

theorem render_parsed_document (document : List Dom) (registry : Registry) (limit : Nat)
    (nested : Dom.depthOf document ≤ limit) :
    (ofDocument document).render registry limit =
      if Dom.printable limit document then pure (Dom.serializeAll document)
      else throw (.tooDeep limit) := by
  have fits := of_document_printable limit document nested
  rw [render_literal registry limit _ (of_document_literal document)
    (of_document_references document), of_document_plain_text]
  simp only [fits]

theorem node_parse_outcome (options : Dom.Options) (text : String) :
    (Node.parse options text).outcome = (Dom.parse options text).outcome.map ofDocument := rfl

theorem parsed_node_rendered (text : String) (limit : Nat) (node : Node)
    (parsed : (Node.parse ⟨false, limit⟩ text).outcome = .ok node) :
    ∃ document, (Dom.parse ⟨false, limit⟩ text).outcome = .ok document ∧
      node = ofDocument document ∧
      (∀ registry larger past, limit < larger →
        (node.render registry larger).account past =
          ⟨.ok (Dom.serializeAll document), past, []⟩) ∧
      ∀ registry past,
        (node.render registry limit).account past =
          if Dom.printable limit document then ⟨.ok (Dom.serializeAll document), past, []⟩
          else ⟨.error (.tooDeep limit), past, []⟩ := by
  rw [node_parse_outcome] at parsed
  cases found : (Dom.parse ⟨false, limit⟩ text).outcome with
  | error e =>
      rw [found] at parsed
      cases parsed
  | ok document =>
      rw [found] at parsed
      cases parsed
      have nested := Dom.build_depth limit _ document found
      refine ⟨document, rfl, rfl, fun registry larger past more => ?_, fun registry past => ?_⟩
      · rw [render_document_deep document registry larger (by omega), Run.pure_account]
      · rw [render_parsed_document document registry limit nested]
        split
        · exact Run.pure_account _ past
        · exact Run.throw_account _ past

-- A text after the doctype would need one level more.
theorem lone_paragraph_rendered :
    ∃ node, (Node.parse ⟨false, 1⟩ "<!DOCTYPE html><p>a<br/></p>").outcome = .ok node ∧
      (node.render .empty 1).account [] = ⟨.ok "<p>a<br/></p>", [], []⟩ ∧
      (node.render .empty 2).account [] = ⟨.ok "<p>a<br/></p>", [], []⟩ := by
  let paragraph : Dom := .element "p" [] [.text "a", .element "br" [] []]
  have parsed : (Node.parse ⟨false, 1⟩ "<!DOCTYPE html><p>a<br/></p>").outcome =
      .ok (ofDom paragraph) := rfl
  obtain ⟨document, found, _, larger, same⟩ := parsed_node_rendered _ 1 _ parsed
  obtain rfl : [.doctype "html", paragraph] = document := Except.ok.inj found
  have written : Dom.serializeAll [.doctype "html", paragraph] = "<p>a<br/></p>" := by
    decide +kernel
  refine ⟨_, parsed, ?_, ?_⟩
  · rw [same .empty [], written]
    rfl
  · rw [larger .empty 2 [] (by decide), written]

def paragraphs : Nat → Dom
  | 0 => .element "br" [] []
  | depth + 1 => .element "p" [] [paragraphs depth]

theorem paragraphs_safe (depth : Nat) : Dom.safe Dom.rawElements (paragraphs depth) := by
  induction depth with
  | zero => decide +kernel
  | succ depth ih =>
      refine Dom.safe_element_holds _ "p" [] [paragraphs depth]
        ⟨by decide, by decide, rfl, fun void => ?_, fun listed => ?_, ?_⟩
      · exact absurd void (by decide)
      · exact absurd listed (by decide)
      · simp only [Dom.safeAll, ih, Dom.beginsWithText, Bool.and_false, Bool.not_false,
          Bool.and_true]

theorem paragraphs_open (depth : Nat) : (paragraphs depth).openNesting = depth := by
  induction depth with
  | zero => decide
  | succ depth ih =>
      have content : Dom.isVoid "p" = false := by decide
      simp [paragraphs, Dom.openNesting, Dom.openNestingOf, content, ih, Nat.add_comm]

theorem paragraphs_with_doctypes (depth : Nat) :
    Dom.withDoctypes (paragraphs depth) = [paragraphs depth] := by
  induction depth with
  | zero => rfl
  | succ depth ih => simp [paragraphs, Dom.withDoctypes, Dom.withDoctypesAll, ih]

theorem paragraphs_height (depth : Nat) : (ofDom (paragraphs depth)).height = depth := by
  induction depth with
  | zero => decide +kernel
  | succ depth ih =>
      have body : Node.bodyOfDoms [paragraphs depth] = .nodes [ofDom (paragraphs depth)] := by
        cases depth <;> rfl
      have bodied : Node.bodiless (Node.literalText "p") = false := by decide +kernel
      rw [paragraphs, ofDom, element_height, bodied, body]
      simp [Node.bodyHeight, Node.levels, ih, Nat.add_comm]

-- A text before the paragraphs makes the document a fragment of two nodes.
def crowded (depth : Nat) : List Dom :=
  [.text "a", paragraphs depth]

theorem crowded_too_deep (limit : Nat) :
    (Node.parse ⟨false, limit⟩ (Dom.serializeAll (crowded limit))).outcome =
        .ok (ofDocument (crowded limit)) ∧
      ∀ registry past,
        ((ofDocument (crowded limit)).render registry limit).account past =
          ⟨.error (.tooDeep limit), past, []⟩ := by
  have safe : Dom.safeAll Dom.rawElements (crowded limit) := by
    have first : Dom.safe Dom.rawElements (.text "a") := by decide
    have apart : (paragraphs limit).isText = false := by cases limit <;> rfl
    simp [crowded, Dom.safeAll, first, paragraphs_safe, apart, Dom.beginsWithText]
  have opened : Dom.openNestingOf (crowded limit) ≤ limit := by
    simp [crowded, Dom.openNestingOf, Dom.openNesting, paragraphs_open]
  have same : Dom.withDoctypesAll (crowded limit) = crowded limit := by
    simp [crowded, Dom.withDoctypesAll, Dom.withDoctypes, paragraphs_with_doctypes]
  have parsed := Dom.parse_serialized (crowded limit) limit safe opened
  rw [same] at parsed
  have deep : ¬ Dom.printable limit (crowded limit) := by
    cases limit <;> simp [crowded, Dom.printable, Dom.kind, paragraphs_height]
  have nested := Dom.build_depth limit _ (crowded limit) parsed
  constructor
  · rw [node_parse_outcome, parsed]
    rfl
  · intro registry past
    rw [render_parsed_document (crowded limit) registry limit nested, if_neg deep,
      Run.throw_account]

theorem limits_disagree :
    (∃ node, (Node.parse ⟨false, 1⟩ "a<p><br/></p>").outcome = .ok node ∧
      (node.render .empty 1).account [] = ⟨.error (.tooDeep 1), [], []⟩) ∧
    ∃ text node, (Node.parse .default text).outcome = .ok node ∧
      (node.render .empty Render.defaultLimit).account [] =
        ⟨.error (.tooDeep Render.defaultLimit), [], []⟩ := by
  have written : Dom.serializeAll (crowded 1) = "a<p><br/></p>" := by decide +kernel
  obtain ⟨shortParsed, shortFailed⟩ := crowded_too_deep 1
  rw [written] at shortParsed
  obtain ⟨parsed, failed⟩ := crowded_too_deep Render.defaultLimit
  exact ⟨⟨_, shortParsed, shortFailed .empty []⟩, _, _, parsed, failed .empty []⟩

end HtmlTemplate
