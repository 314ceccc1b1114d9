import HtmlTemplate.Proofs.SafeMarkup
import HtmlTemplate.Proofs.TokenRun

set_option autoImplicit false

namespace HtmlTemplate.Dom

open Markup (Token)

mutual
def openNesting : Dom → Nat
  | .element name _ children => (if isVoid name then 0 else 1) + openNestingOf children
  | _ => 0
def openNestingOf : List Dom → Nat
  | [] => 0
  | node :: rest => max (openNesting node) (openNestingOf rest)
end

mutual
def withDoctypes : Dom → List Dom
  | .element name attributes children =>
    (if name = "html" then [.doctype "html"] else []) ++
      [.element name attributes (withDoctypesAll children)]
  | node => [node]
def withDoctypesAll : List Dom → List Dom
  | [] => []
  | node :: rest => withDoctypes node ++ withDoctypesAll rest
end

namespace Builder

theorem modify_current_twice (b : Builder) (f g : List Dom → List Dom) :
    (b.modifyCurrent f).modifyCurrent g = b.modifyCurrent fun nodes => g (f nodes) := by
  obtain ⟨opened, top, notices⟩ := b
  cases opened <;> rfl

theorem modify_current_current (b : Builder) (f : List Dom → List Dom) :
    (b.modifyCurrent f).current = f b.current := by
  obtain ⟨opened, top, notices⟩ := b
  cases opened <;> rfl

def pushAll (b : Builder) (nodes : List Dom) : Builder :=
  b.modifyCurrent (nodes.reverse ++ ·)

theorem push_all_append (b : Builder) (nodes others : List Dom) :
    (b.pushAll nodes).pushAll others = b.pushAll (nodes ++ others) := by
  simp [pushAll, modify_current_twice]

theorem push_all_single (b : Builder) (node : Dom) : b.pushAll [node] = b.push node := rfl

theorem push_all_names (b : Builder) (nodes : List Dom) : (b.pushAll nodes).names = b.names :=
  modify_current_names b _

theorem push_text_apart (b : Builder) (s : String) (apart : beginsWithText b.current = false) :
    b.pushText s = b.pushAll [.text s] := by
  obtain ⟨opened, top, notices⟩ := b
  have joined (nodes : List Dom) (apart : beginsWithText nodes = false) :
      joinText s nodes = .text s :: nodes := by
    cases nodes with
    | nil => rfl
    | cons node rest => cases node <;> first | rfl | cases apart
  cases opened with
  | nil => simp [pushText, modifyCurrent, pushAll, joined top apart]
  | cons frame outer => simp [pushText, modifyCurrent, pushAll, joined frame.children apart]

-- What is asked of a builder before the tokens of some nodes: room for the elements in them, no
-- open element that cannot have content, and no text that a first text could be joined to.
structure Ready (limit : Nat) (b : Builder) (nesting : Nat) (text : Bool) : Prop where
  room : b.names.length + nesting ≤ limit
  content : ∀ name ∈ b.names, isVoid name = false
  apart : text → beginsWithText b.current = false

theorem run_html_doctype (options : Options) (b : Builder) (name : String) (more : List Token) :
    b.run options ((if name = "html" then [.doctype "html"] else []) ++ more) =
      (b.pushAll (if name = "html" then [.doctype "html"] else [])).run options more := by
  split
  · rfl
  · obtain ⟨opened, top, notices⟩ := b
    cases opened <;> rfl

-- An element without content is there as soon as its start tag is read. The end tag that some of
-- them are written with closes nothing.
theorem run_void_element (options : Options) (b : Builder) (name : String)
    (attributes : List (String × String)) (more : List Token) (void : isVoid name)
    (content : ∀ name ∈ b.names, isVoid name = false) :
    b.run options ((if Render.isSelfClosing name then [.startTag name attributes true]
      else [.startTag name attributes false, .endTag name]) ++ more) =
      (b.pushAll [.element name attributes []]).run options more := by
  have pushed (selfClosing : Bool) : b.step options (.startTag name attributes selfClosing) =
      .ok (b.pushAll [.element name attributes []]) := by
    simp [step, startTag, void, push_all_single]
  split
  · rw [List.singleton_append, run, pushed]
  · have unknown :
        (b.pushAll [.element name attributes []]).opened.findIdx? (·.name = name) = none := by
      rw [List.findIdx?_eq_none_iff]
      intro frame member
      have held : frame.name ∈ b.names := by
        rw [← push_all_names b [.element name attributes []]]
        exact List.mem_map_of_mem member
      have other := content frame.name held
      rw [decide_eq_false_iff_not]
      rintro rfl
      rw [void] at other
      cases other
    have ignored : (b.pushAll [.element name attributes []]).step options (.endTag name) =
        .ok (b.pushAll [.element name attributes []]) := by
      simp [step, endTag, unknown, void]
    rw [List.cons_append, run, pushed]
    simp only [List.singleton_append, run, ignored]

def enter (b : Builder) (name : String) (attributes : List (String × String)) : Builder :=
  { b with opened := ⟨name, attributes, []⟩ :: b.opened }

theorem leave_entered (options : Options) (b : Builder) (name : String)
    (attributes : List (String × String)) (children : List Dom) :
    ((b.enter name attributes).pushAll children).step options (.endTag name) =
      .ok (b.pushAll [.element name attributes children]) := by
  obtain ⟨opened, top, notices⟩ := b
  cases opened <;>
    simp [step, endTag, enter, pushAll, modifyCurrent, close, closeInnermost, Frame.close, push,
      List.findIdx?_cons]

theorem enter_ready (limit : Nat) (b : Builder) (name : String)
    (attributes : List (String × String)) (nesting : Nat) (text : Bool)
    (room : b.names.length + (1 + nesting) ≤ limit) (named : isVoid name = false)
    (content : ∀ name ∈ b.names, isVoid name = false) :
    (b.enter name attributes).Ready limit nesting text := by
  refine ⟨?_, ?_, fun _ => rfl⟩
  · have length : (b.enter name attributes).names.length = b.names.length + 1 := by
      simp [enter, names]
    omega
  · intro other member
    have cases : other = name ∨ other ∈ b.names := List.mem_cons.mp member
    rcases cases with rfl | outer
    · exact named
    · exact content other outer

theorem self_closing_void (name : String) (single : Render.isSelfClosing name) : isVoid name := by
  have listed : ∀ name ∈ Render.selfClosingTags, isVoid name := by decide
  exact listed name (List.contains_iff_mem.mp single)

theorem with_doctypes_last (node : Dom) (before : List Dom) :
    beginsWithText ((withDoctypes node).reverse ++ before) = node.isText := by
  cases node <;> simp [withDoctypes, beginsWithText, isText]

mutual
theorem run_tokens (raw : List String) (options : Options) : (node : Dom) → safe raw node →
    (b : Builder) → b.Ready options.limit node.openNesting node.isText → (more : List Token) →
    b.run options (node.tokens ++ more) = (b.pushAll (withDoctypes node)).run options more
  | .text s, _, b, ready, more => by
      have pushed := push_text_apart b s (ready.apart rfl)
      simp only [tokens, List.singleton_append, run, step, pushed, withDoctypes]
  | .comment s, _, b, _, more => rfl
  | .doctype _, fits, _, _, _ => by cases fits
  | .element name attributes children, fits, b, ready, more => by
      have element := safe_element raw name attributes children fits
      rw [tokens, List.append_assoc, run_html_doctype, withDoctypes, ← push_all_append]
      have names := push_all_names b (if name = "html" then [.doctype "html"] else [])
      generalize b.pushAll (if name = "html" then [.doctype "html"] else []) = placed at names ⊢
      have content : ∀ name ∈ placed.names, isVoid name = false := names ▸ ready.content
      cases void : isVoid name with
      | true =>
          obtain rfl := element.void void
          exact run_void_element options placed name attributes more void content
      | false =>
          have room := ready.room
          simp only [openNesting, void, Bool.false_eq_true, if_false, ← names] at room
          have inside := enter_ready options.limit placed name attributes (openNestingOf children)
            (beginsWithText children) room void content
          have single : Render.isSelfClosing name = false := by
            rw [← Bool.not_eq_true]
            intro single
            rw [self_closing_void name single] at void
            cases void
          have entered : placed.step options (.startTag name attributes false) =
              .ok (placed.enter name attributes) := by
            have limit : ¬ options.limit ≤ placed.opened.length := by
              have length : placed.names.length = placed.opened.length := List.length_map _
              omega
            simp [step, startTag, void, limit, enter]
          simp only [single, Bool.false_eq_true, if_false]
          rw [List.cons_append, run, entered, List.append_assoc]
          simp only [run_tokens_of raw options children element.childrenSafe _ inside,
            List.singleton_append, run, leave_entered]
theorem run_tokens_of (raw : List String) (options : Options) : (nodes : List Dom) →
    safeAll raw nodes → (b : Builder) →
    b.Ready options.limit (openNestingOf nodes) (beginsWithText nodes) → (more : List Token) →
    b.run options (tokensOf nodes ++ more) = (b.pushAll (withDoctypesAll nodes)).run options more
  | [], _, b, _, more => by
      have same : b.pushAll [] = b := by
        obtain ⟨opened, top, notices⟩ := b
        cases opened <;> rfl
      rw [tokensOf, withDoctypesAll, same, List.nil_append]
  | node :: rest, fits, b, ready, more => by
      obtain ⟨own, apart, behind⟩ := safe_cons raw node rest fits
      have room := ready.room
      simp only [openNestingOf] at room
      have first : b.Ready options.limit node.openNesting node.isText :=
        ⟨by omega, ready.content, ready.apart⟩
      have others : (b.pushAll (withDoctypes node)).Ready options.limit (openNestingOf rest)
          (beginsWithText rest) := by
        refine ⟨?_, ?_, fun text => ?_⟩
        · rw [push_all_names]
          omega
        · rw [push_all_names]
          exact ready.content
        · rw [pushAll, modify_current_current, with_doctypes_last]
          exact apart text
      rw [tokensOf, List.append_assoc, run_tokens raw options node own b first,
        run_tokens_of raw options rest behind _ others, push_all_append, withDoctypesAll]
end

end Builder

mutual
theorem tokens_plain (raw : List String) : (node : Dom) → safe raw node →
    ∀ token ∈ node.tokens, token.isFlaw = false ∧ token ≠ .text ""
  | .text s, fits, token, member => by
      obtain rfl := List.mem_singleton.mp member
      simp only [safe, Bool.and_eq_true, decide_eq_true_eq] at fits
      exact ⟨rfl, fun same => fits.1 (Token.text.inj same)⟩
  | .comment s, _, token, member => by
      obtain rfl := List.mem_singleton.mp member
      exact ⟨rfl, nofun⟩
  | .doctype _, fits, _, _ => by cases fits
  | .element name attributes children, fits, token, member => by
      have element := safe_element raw name attributes children fits
      have inside := tokens_of_plain raw children element.childrenSafe
      rw [tokens, List.mem_append] at member
      rcases member with before | own
      · split at before
        · obtain rfl := List.mem_singleton.mp before
          exact ⟨rfl, nofun⟩
        · cases before
      · split at own
        · obtain rfl := List.mem_singleton.mp own
          exact ⟨rfl, nofun⟩
        · simp only [List.mem_cons, List.mem_append, List.not_mem_nil, or_false] at own
          rcases own with rfl | within | rfl
          · exact ⟨rfl, nofun⟩
          · exact inside token within
          · exact ⟨rfl, nofun⟩
theorem tokens_of_plain (raw : List String) : (nodes : List Dom) → safeAll raw nodes →
    ∀ token ∈ tokensOf nodes, token.isFlaw = false ∧ token ≠ .text ""
  | [], _, _, member => by cases member
  | node :: rest, fits, token, member => by
      obtain ⟨own, _, behind⟩ := safe_cons raw node rest fits
      rcases List.mem_append.mp member with first | later
      · exact tokens_plain raw node own token first
      · exact tokens_of_plain raw rest behind token later
end

end HtmlTemplate.Dom
