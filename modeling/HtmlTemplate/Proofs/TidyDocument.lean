import Mathlib.Data.List.Chain
import HtmlTemplate.Proofs.TreeTokens

/-!
The documents that building can give. No text in them is empty or stands next to another text, no
element is left with content that it cannot have, and no more elements with children are nested in
each other than may be open at once. Each such document is built again from its own tokens.
-/

set_option autoImplicit false

namespace HtmlTemplate.Dom

open Markup (Token)

mutual
-- Trees without empty texts, texts next to each other, and void elements with children.
def tidy : Dom → Bool
  | .text s => s ≠ ""
  | .comment _ => true
  | .doctype _ => true
  | .element name _ children => (!isVoid name || children.isEmpty) && tidyAll children
def tidyAll : List Dom → Bool
  | [] => true
  | node :: rest => tidy node && !(isText node && beginsWithText rest) && tidyAll rest
end

structure WellFormed (limit : Nat) (document : List Dom) : Prop where
  tidy : tidyAll document
  nested : depthOf document ≤ limit

mutual
-- One token for each node that has no children; the others stand between their tags.
def linear : Dom → List Token
  | .text s => [.text s]
  | .comment s => [.comment s]
  | .doctype name => [.doctype name]
  | .element name attributes children =>
    if children.isEmpty then [.startTag name attributes true]
    else .startTag name attributes false :: (linearAll children ++ [.endTag name])
def linearAll : List Dom → List Token
  | [] => []
  | node :: rest => linear node ++ linearAll rest
end

structure Siblings (limit level : Nat) (nodes : List Dom) : Prop where
  room : level ≤ limit
  tidy : ∀ node ∈ nodes, node.tidy
  nested : ∀ node ∈ nodes, level + node.depth ≤ limit
  apart : nodes.IsChain fun node next => ¬ (node.isText ∧ next.isText)

theorem begins_with_text_head (nodes : List Dom) :
    beginsWithText nodes ↔ ∃ node ∈ nodes.head?, node.isText := by
  cases nodes with
  | nil => simp [beginsWithText]
  | cons node rest => simp [beginsWithText]

theorem tidy_all_members (nodes : List Dom) :
    tidyAll nodes ↔ (∀ node ∈ nodes, node.tidy) ∧
      nodes.IsChain fun node next => ¬ (node.isText ∧ next.isText) := by
  induction nodes with
  | nil => simp [tidyAll]
  | cons node rest ih =>
      have behind : ¬ (node.isText ∧ beginsWithText rest) ↔
          ∀ next ∈ rest.head?, ¬ (node.isText ∧ next.isText) := by
        rw [begins_with_text_head]
        constructor
        · intro apart next first both
          exact apart ⟨both.1, next, first, both.2⟩
        · rintro apart ⟨text, next, first, other⟩
          exact apart next first ⟨text, other⟩
      have opened : tidyAll (node :: rest) ↔
          (node.tidy ∧ ¬ (node.isText ∧ beginsWithText rest)) ∧ tidyAll rest := by
        simp only [tidyAll, Bool.and_eq_true, Bool.not_eq_true', ← Bool.not_eq_true]
      rw [opened, behind, ih, List.isChain_cons, List.forall_mem_cons]
      tauto

theorem depth_of_members (nodes : List Dom) (bound : Nat) :
    depthOf nodes ≤ bound ↔ ∀ node ∈ nodes, node.depth ≤ bound := by
  induction nodes with
  | nil => simp [depthOf]
  | cons node rest ih => rw [depthOf, Nat.max_le, ih, List.forall_mem_cons]

theorem siblings_well_formed (limit : Nat) (nodes : List Dom) :
    Siblings limit 0 nodes ↔ WellFormed limit nodes := by
  constructor
  · intro siblings
    refine ⟨(tidy_all_members nodes).mpr ⟨siblings.tidy, siblings.apart⟩, ?_⟩
    rw [depth_of_members]
    intro node member
    simpa using siblings.nested node member
  · intro formed
    obtain ⟨tidy, apart⟩ := (tidy_all_members nodes).mp formed.tidy
    refine ⟨Nat.zero_le _, tidy, ?_, apart⟩
    intro node member
    simpa using (depth_of_members nodes limit).mp formed.nested node member

theorem siblings_reverse (limit level : Nat) (nodes : List Dom)
    (siblings : Siblings limit level nodes) : Siblings limit level nodes.reverse where
  room := siblings.room
  tidy := by simpa using siblings.tidy
  nested := by simpa using siblings.nested
  apart := by
    rw [List.isChain_reverse]
    refine siblings.apart.imp ?_
    intro node next apart both
    exact apart ⟨both.2, both.1⟩

theorem siblings_cons (limit level : Nat) (node : Dom) (nodes : List Dom)
    (siblings : Siblings limit level nodes) (tidy : node.tidy) (nested : level + node.depth ≤ limit)
    (apart : node.isText = false ∨ beginsWithText nodes = false) :
    Siblings limit level (node :: nodes) where
  room := siblings.room
  tidy := List.forall_mem_cons.mpr ⟨tidy, siblings.tidy⟩
  nested := List.forall_mem_cons.mpr ⟨nested, siblings.nested⟩
  apart := by
    refine List.isChain_cons.mpr ⟨?_, siblings.apart⟩
    rintro next first ⟨text, other⟩
    rcases apart with different | different
    · rw [text] at different
      cases different
    · rw [(begins_with_text_head nodes).mpr ⟨next, first, other⟩] at different
      cases different

theorem siblings_join_text (limit level : Nat) (s : String) (nodes : List Dom)
    (siblings : Siblings limit level nodes) (filled : s ≠ "") :
    Siblings limit level (Builder.joinText s nodes) := by
  have text (t : String) (inhabited : t ≠ "") : (Dom.text t).tidy := by simpa [tidy] using inhabited
  have fresh (apart : beginsWithText nodes = false) : Siblings limit level (.text s :: nodes) :=
    siblings_cons _ _ _ _ siblings (text s filled) siblings.room (.inr apart)
  cases nodes with
  | nil => exact fresh rfl
  | cons node rest =>
      cases node with
      | text before =>
          have joined : before ++ s ≠ "" := by simp [filled]
          obtain ⟨_, tidyRest⟩ := List.forall_mem_cons.mp siblings.tidy
          obtain ⟨_, nestedRest⟩ := List.forall_mem_cons.mp siblings.nested
          exact ⟨siblings.room, List.forall_mem_cons.mpr ⟨text _ joined, tidyRest⟩,
            List.forall_mem_cons.mpr ⟨siblings.room, nestedRest⟩,
            List.isChain_cons.mpr (List.isChain_cons.mp siblings.apart)⟩
      | element name attributes children => exact fresh rfl
      | comment c => exact fresh rfl
      | doctype name => exact fresh rfl

theorem close_siblings (limit level : Nat) (frame : Frame) (content : isVoid frame.name = false)
    (siblings : Siblings limit (level + 1) frame.children) :
    frame.close.tidy ∧ level + frame.close.depth ≤ limit := by
  have ordered := siblings_reverse limit (level + 1) frame.children siblings
  constructor
  · have inside := (tidy_all_members _).mpr ⟨ordered.tidy, ordered.apart⟩
    simp [Frame.close, tidy, content, inside]
  · by_cases empty : frame.children.reverse = []
    · rw [Frame.close, empty]
      exact Nat.le_of_succ_le siblings.room
    · have inside : depthOf frame.children.reverse ≤ limit - (level + 1) := by
        rw [depth_of_members]
        intro node member
        have deep := ordered.nested node member
        omega
      have room := siblings.room
      rw [Frame.close, element_depth _ _ _ empty]
      omega

def TidyFrames (limit : Nat) (top : List Dom) : List Frame → Prop
  | [] => Siblings limit 0 top
  | frame :: outer =>
    isVoid frame.name = false ∧ Siblings limit (outer.length + 1) frame.children ∧
      TidyFrames limit top outer

namespace Builder

-- The invariant of building: what is there already will be part of a well formed document.
def Tidy (limit : Nat) (b : Builder) : Prop :=
  TidyFrames limit b.top b.opened

theorem current_siblings (limit : Nat) (b : Builder) (tidy : b.Tidy limit) :
    Siblings limit b.opened.length b.current := by
  obtain ⟨opened, top, notices⟩ := b
  cases opened with
  | nil => exact tidy
  | cons frame outer => exact tidy.2.1

theorem modify_current_tidy (limit : Nat) (b : Builder) (f : List Dom → List Dom)
    (tidy : b.Tidy limit) (kept : Siblings limit b.opened.length (f b.current)) :
    (b.modifyCurrent f).Tidy limit := by
  obtain ⟨opened, top, notices⟩ := b
  cases opened with
  | nil => exact kept
  | cons frame outer => exact ⟨tidy.1, kept, tidy.2.2⟩

theorem push_tidy (limit : Nat) (b : Builder) (node : Dom) (tidy : b.Tidy limit)
    (own : node.tidy) (nested : b.opened.length + node.depth ≤ limit)
    (other : node.isText = false) :
    (b.push node).Tidy limit :=
  modify_current_tidy limit b _ tidy
    (siblings_cons _ _ _ _ (current_siblings limit b tidy) own nested (.inl other))

theorem push_text_tidy (limit : Nat) (b : Builder) (s : String) (tidy : b.Tidy limit)
    (filled : s ≠ "") : (b.pushText s).Tidy limit :=
  modify_current_tidy limit b _ tidy
    (siblings_join_text _ _ s _ (current_siblings limit b tidy) filled)

theorem close_innermost_tidy (limit : Nat) (b : Builder) (tidy : b.Tidy limit) :
    b.closeInnermost.Tidy limit := by
  obtain ⟨opened, top, notices⟩ := b
  cases opened with
  | nil => exact tidy
  | cons frame outer =>
      obtain ⟨content, siblings, outside⟩ := tidy
      obtain ⟨own, nested⟩ := close_siblings limit outer.length frame content siblings
      exact push_tidy limit ⟨outer, top, notices⟩ frame.close outside own nested rfl

theorem close_tidy (limit count : Nat) (b : Builder) (tidy : b.Tidy limit) :
    (close count b).Tidy limit := by
  induction count generalizing b with
  | zero => exact tidy
  | succ count ih => exact ih b.closeInnermost (close_innermost_tidy limit b tidy)

theorem finish_tidy (limit : Nat) (b : Builder) (tidy : b.Tidy limit) : b.finish.Tidy limit := by
  unfold finish
  split
  · exact tidy
  · exact close_tidy limit _ _ tidy

theorem end_tag_tidy (limit : Nat) (b : Builder) (name : String) (tidy : b.Tidy limit) :
    (b.endTag name).Tidy limit := by
  unfold endTag
  split
  · exact close_tidy limit _ b tidy
  · split
    · exact tidy
    · exact tidy

theorem start_tag_tidy (limit : Nat) (b next : Builder) (name : String)
    (attributes : List (String × String)) (selfClosing : Bool) (tidy : b.Tidy limit)
    (stepped : b.startTag limit name attributes selfClosing = .ok next) : next.Tidy limit := by
  have room := (current_siblings limit b tidy).room
  unfold startTag at stepped
  split at stepped
  · cases stepped
    exact push_tidy limit b _ tidy (by simp [Dom.tidy, tidyAll]) room rfl
  · rename_i lasting
    split at stepped
    · cases stepped
    · rename_i free
      cases stepped
      have content : isVoid name = false := by
        cases void : isVoid name with
        | false => rfl
        | true => exact absurd (by simp [void]) lasting
      have inside : Siblings limit (b.opened.length + 1) [] :=
        ⟨Nat.lt_of_not_le free, by simp, by simp, List.isChain_nil⟩
      exact ⟨content, inside, tidy⟩

theorem step_tidy (options : Options) (b next : Builder) (token : Token)
    (tidy : b.Tidy options.limit) (filled : token ≠ .text "")
    (stepped : b.step options token = .ok next) : next.Tidy options.limit := by
  have room := (current_siblings options.limit b tidy).room
  cases token with
  | startTag name attributes selfClosing =>
      exact start_tag_tidy options.limit b next name attributes selfClosing tidy stepped
  | endTag name =>
      cases stepped
      exact end_tag_tidy options.limit b name tidy
  | text s =>
      cases stepped
      exact push_text_tidy options.limit b s tidy fun empty => filled (congrArg Token.text empty)
  | comment s =>
      cases stepped
      exact push_tidy options.limit b (.comment s) tidy rfl room rfl
  | doctype name =>
      cases stepped
      exact push_tidy options.limit b (.doctype name) tidy rfl room rfl
  | flaw flaw =>
      rw [step] at stepped
      split at stepped
      · cases stepped
      · cases stepped
        exact tidy

theorem run_tidy (options : Options) (tokens : List Token) (b last : Builder)
    (tidy : b.Tidy options.limit) (filled : .text "" ∉ tokens)
    (finished : b.run options tokens = (last, none)) : last.Tidy options.limit := by
  induction tokens generalizing b with
  | nil =>
      cases finished
      exact tidy
  | cons token rest ih =>
      simp only [List.mem_cons, not_or] at filled
      rw [run] at finished
      cases stepped : b.step options token with
      | error e =>
          rw [stepped] at finished
          cases finished
      | ok next =>
          rw [stepped] at finished
          have kept := step_tidy options b next token tidy (Ne.symm filled.1) stepped
          exact ih next kept filled.2 finished

-- Nothing but the root is open at the end, so that the invariant is about the document itself.
theorem finish_well_formed (limit : Nat) (b : Builder) (tidy : b.Tidy limit) :
    WellFormed limit b.finish.top.reverse := by
  have closed : b.finish.opened = [] := List.map_eq_nil_iff.mp (finish_names b)
  have whole := finish_tidy limit b tidy
  rw [Tidy, closed] at whole
  exact (siblings_well_formed limit _).mp (siblings_reverse limit 0 _ whole)

mutual
theorem run_linear (options : Options) : (node : Dom) → node.tidy → (b : Builder) →
    b.names.length + node.depth ≤ options.limit →
    (node.isText → beginsWithText b.current = false) → (more : List Token) →
    b.run options (node.linear ++ more) = (b.push node).run options more
  | .text s, _, b, _, apart, more => by
      have pushed := push_text_apart b s (apart rfl)
      simp only [linear, List.singleton_append, run, step, pushed, push_all_single]
  | .comment s, _, b, _, _, more => rfl
  | .doctype name, _, b, _, _, more => rfl
  | .element name attributes children, own, b, room, _, more => by
      simp only [tidy, Bool.and_eq_true, Bool.or_eq_true, Bool.not_eq_true',
        List.isEmpty_iff] at own
      obtain ⟨content, inside⟩ := own
      by_cases empty : children = []
      · subst empty
        simp only [linear, List.isEmpty_nil, if_true, List.singleton_append, run, step, startTag,
          Bool.true_or]
      · rw [element_depth name attributes children empty] at room
        have lasting : isVoid name = false := content.resolve_right empty
        have free : ¬ options.limit ≤ b.opened.length := by
          have length : b.names.length = b.opened.length := List.length_map _
          omega
        have entered : b.step options (.startTag name attributes false) =
            .ok (b.enter name attributes) := by
          simp [step, startTag, lasting, free, enter]
        have within :
            (b.enter name attributes).names.length + depthOf children ≤ options.limit := by
          have length : (b.enter name attributes).names.length = b.names.length + 1 := by
            simp [enter, names]
          omega
        have marked : linear (.element name attributes children) =
            .startTag name attributes false :: (linearAll children ++ [.endTag name]) := by
          simp [linear, empty]
        rw [marked, List.cons_append, run, entered, List.append_assoc]
        simp only [run_linear_all options children inside _ within (fun _ => rfl),
          List.singleton_append, run, leave_entered, push_all_single]
theorem run_linear_all (options : Options) : (nodes : List Dom) → tidyAll nodes → (b : Builder) →
    b.names.length + depthOf nodes ≤ options.limit →
    (beginsWithText nodes → beginsWithText b.current = false) → (more : List Token) →
    b.run options (linearAll nodes ++ more) = (b.pushAll nodes).run options more
  | [], _, b, _, _, more => by
      have same : b.pushAll [] = b := by
        obtain ⟨opened, top, notices⟩ := b
        cases opened <;> rfl
      rw [linearAll, same, List.nil_append]
  | node :: rest, fits, b, room, apart, more => by
      simp only [tidyAll, Bool.and_eq_true, Bool.not_eq_true'] at fits
      obtain ⟨⟨own, between⟩, behind⟩ := fits
      simp only [depthOf] at room
      have later : beginsWithText rest → beginsWithText (b.push node).current = false := by
        intro text
        rw [text, Bool.and_true] at between
        rw [push, modify_current_current]
        exact between
      have further : (b.push node).names.length + depthOf rest ≤ options.limit := by
        rw [← push_all_single, push_all_names]
        omega
      rw [linearAll, List.append_assoc, run_linear options node own b (by omega) apart,
        run_linear_all options rest behind _ further later, ← push_all_single, push_all_append,
        List.singleton_append]
end

end Builder

theorem build_tidy (options : Options) (tokens : List Token) (document : List Dom)
    (filled : .text "" ∉ tokens) (built : (build options tokens).outcome = .ok document) :
    WellFormed options.limit document := by
  unfold build at built
  rcases finished : Builder.empty.run options tokens with ⟨b, failure⟩
  rw [finished] at built
  cases failure with
  | some e => cases built
  | none =>
      cases built
      have start : Builder.empty.Tidy options.limit :=
        ⟨Nat.zero_le _, by simp [Builder.empty], by simp [Builder.empty], List.isChain_nil⟩
      exact Builder.finish_well_formed options.limit b
        (Builder.run_tidy options tokens .empty b start filled finished)

theorem build_linear (options : Options) (forest : List Dom)
    (formed : WellFormed options.limit forest) :
    (build options (linearAll forest)).outcome = .ok forest := by
  have within : Builder.empty.names.length + depthOf forest ≤ options.limit := by
    simpa [Builder.empty, Builder.names] using formed.nested
  have finished := Builder.run_linear_all options forest formed.tidy .empty within (fun _ => rfl) []
  rw [List.append_nil] at finished
  have whole : Builder.empty.run options (linearAll forest) =
      (⟨[], forest.reverse ++ [], []⟩, none) := finished
  simp only [build, whole]
  simp [Builder.finish]

theorem build_image_rebuilt (options : Options) :
    (∀ tokens document, .text "" ∉ tokens → (build options tokens).outcome = .ok document →
      WellFormed options.limit document ∧
        (build options (linearAll document)).outcome = .ok document) ∧
    (∀ forest, WellFormed options.limit forest →
      (build options (linearAll forest)).outcome = .ok forest) := by
  constructor
  · intro tokens document filled built
    have formed := build_tidy options tokens document filled built
    exact ⟨formed, build_linear options document formed⟩
  · intro forest formed
    exact build_linear options forest formed

def crossedTokens : List Token :=
  [.doctype "html", .text "a", .endTag "p", .text "b", .startTag "p" [("x", "1"), ("x", "2")] false,
    .startTag "p" [] false, .startTag "br" [] false, .text "c", .endTag "p", .text "d",
    .startTag "i" [] false, .endTag "p", .startTag "hr" [] true]

def crossedDocument : List Dom :=
  [.doctype "html", .text "ab",
    .element "p" [("x", "1"), ("x", "2")]
      [.element "p" [] [.element "br" [] [], .text "c"], .text "d", .element "i" [] []],
    .element "hr" [] []]

theorem crossed_tokens_rebuilt :
    .text "" ∉ crossedTokens ∧ (build ⟨true, 2⟩ crossedTokens).outcome = .ok crossedDocument ∧
      WellFormed 2 crossedDocument ∧
      (build ⟨true, 2⟩ (linearAll crossedDocument)).outcome = .ok crossedDocument ∧
      (build ⟨false, 2⟩ (linearAll crossedDocument)).outcome = .ok crossedDocument := by
  have filled : .text "" ∉ crossedTokens := by simp [crossedTokens]
  have built : (build ⟨true, 2⟩ crossedTokens).outcome = .ok crossedDocument := rfl
  obtain ⟨formed, again⟩ :=
    (build_image_rebuilt ⟨true, 2⟩).1 crossedTokens crossedDocument filled built
  exact ⟨filled, built, formed, again, (build_image_rebuilt ⟨false, 2⟩).2 crossedDocument formed⟩

end HtmlTemplate.Dom
