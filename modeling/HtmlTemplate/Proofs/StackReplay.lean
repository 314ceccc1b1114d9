import HtmlTemplate.Proofs.BuilderOutline

/-!
Building a document is replaying its tokens on a stack of names: the outline of the document is what
the replay records, with texts joined, and building fails only where the stack grows too long.
-/

set_option autoImplicit false

namespace HtmlTemplate.Dom

open Markup (Token)

-- The names of the open elements, the innermost first, and the lines recorded so far, in order.
structure Replay where
  opened : List String
  lines : List Line

namespace Replay

def start : Replay := ⟨[], []⟩

def record (r : Replay) (item : Item) : Replay :=
  { r with lines := r.lines ++ [⟨r.opened.length, item⟩] }

-- Leaves the innermost open element of a name with all inside of it, if there is one.
def leave (r : Replay) (name : String) : Replay :=
  if name ∈ r.opened then { r with opened := (r.opened.dropWhile (· ≠ name)).tail } else r

def step (r : Replay) : Token → Replay
  | .startTag name attributes selfClosing =>
    let recorded := r.record (.element name attributes)
    if selfClosing || isVoid name then recorded
    else { recorded with opened := name :: recorded.opened }
  | .endTag name => r.leave name
  | .text s => r.record (.text s)
  | .comment s => r.record (.comment s)
  | .doctype name => r.record (.doctype name)
  | .flaw _ => r

def run (r : Replay) (tokens : List Token) : Replay :=
  tokens.foldl step r

def Overflows (limit : Nat) (r : Replay) (tokens : List Token) : Prop :=
  ∃ count, limit < (r.run (tokens.take count)).opened.length

theorem leave_shorter (r : Replay) (name : String) :
    (r.leave name).opened.length ≤ r.opened.length := by
  unfold leave
  split
  · rw [List.length_tail]
    exact Nat.le_trans (Nat.sub_le _ _) (List.dropWhile_sublist _).length_le
  · exact Nat.le_refl _

theorem overflows_cons (limit : Nat) (r : Replay) (token : Token) (rest : List Token)
    (within : r.opened.length ≤ limit) :
    Overflows limit r (token :: rest) ↔ Overflows limit (r.step token) rest := by
  constructor
  · rintro ⟨count, exceeds⟩
    cases count with
    | zero => exact absurd exceeds (Nat.not_lt.mpr within)
    | succ count => exact ⟨count, exceeds⟩
  · rintro ⟨count, exceeds⟩
    exact ⟨count + 1, exceeds⟩

theorem overflows_at_once (limit : Nat) (r : Replay) (token : Token) (rest : List Token)
    (exceeds : limit < (r.step token).opened.length) : Overflows limit r (token :: rest) :=
  ⟨1, by simpa [run] using exceeds⟩

end Replay

-- The invariant of building: the open elements have the names on the stack, and what has been
-- built so far is what has been recorded.
structure Builder.Follows (b : Builder) (r : Replay) : Prop where
  names : b.names = r.opened
  outline : b.outline = Line.joinTexts r.lines

theorem follows_height (b : Builder) (r : Replay) (follows : b.Follows r) :
    b.opened.length = r.opened.length := by
  rw [← follows.names, Builder.names, List.length_map]

theorem push_follows (b : Builder) (r : Replay) (node : Dom) (follows : b.Follows r)
    (childless : node.children = []) (apart : ∀ s, node.item ≠ .text s) :
    (b.push node).Follows (r.record node.item) where
  names := (Builder.modify_current_names b (node :: ·)).trans follows.names
  outline := by
    rw [Builder.push_outline, follows.outline, follows_height b r follows, Replay.record,
      Line.join_texts_concat, Line.onto_apart, outline_item_children, childless]
    · simp [outlineOf]
    · intro s same
      exact absurd same (apart s)

theorem push_text_follows (b : Builder) (r : Replay) (s : String) (follows : b.Follows r) :
    (b.pushText s).Follows (r.record (.text s)) where
  names := (Builder.modify_current_names b (Builder.joinText s)).trans follows.names
  outline := by
    rw [Builder.push_text_outline, follows.outline, follows_height b r follows, Replay.record,
      Line.join_texts_concat]

theorem open_follows (b : Builder) (r : Replay) (name : String)
    (attributes : List (String × String)) (follows : b.Follows r) :
    Builder.Follows { b with opened := ⟨name, attributes, []⟩ :: b.opened }
      { r.record (.element name attributes) with opened := name :: r.opened } where
  names := congrArg (name :: ·) follows.names
  outline := by
    have pushed := (push_follows b r (.element name attributes []) follows rfl (by simp [item])).outline
    rw [Builder.push_outline] at pushed
    refine Eq.trans ?_ pushed
    simp [Builder.outline, Builder.openedOutline, Dom.outline, outlineOf]

theorem drop_while_index (frames : List Frame) (name : String) (index : Nat)
    (found : frames.findIdx? (·.name = name) = some index) :
    name ∈ frames.map Frame.name ∧
      (frames.map Frame.name).dropWhile (· ≠ name) = (frames.map Frame.name).drop index := by
  induction frames generalizing index with
  | nil => cases found
  | cons frame outer ih =>
      rw [List.findIdx?_cons] at found
      by_cases same : frame.name = name
      · have first : index = 0 := by simpa [same] using found.symm
        subst first
        simp [same]
      · obtain ⟨later, inner, next⟩ : ∃ later, outer.findIdx? (·.name = name) = some later ∧
            later + 1 = index := by simpa [same] using found
        obtain ⟨member, dropped⟩ := ih later inner
        subst next
        refine ⟨List.mem_cons_of_mem _ member, ?_⟩
        rw [List.map_cons, List.dropWhile_cons_of_pos (by simpa using same), dropped,
          List.drop_succ_cons]

theorem end_tag_follows (b : Builder) (r : Replay) (name : String) (follows : b.Follows r) :
    (b.endTag name).Follows (r.leave name) := by
  unfold Builder.endTag Replay.leave
  split
  · rename_i index found
    obtain ⟨member, dropped⟩ := drop_while_index b.opened name index found
    rw [← follows.names, Builder.names, if_pos member, dropped]
    refine ⟨?_, (Builder.close_outline _ b).trans follows.outline⟩
    rw [Builder.close_names, Builder.names, List.tail_drop]
  · rename_i missing
    have absent : name ∉ r.opened := by
      rw [← follows.names]
      simpa [Builder.names, List.findIdx?_eq_none_iff] using missing
    rw [if_neg absent]
    split
    · exact follows
    · exact ⟨follows.names, follows.outline⟩

theorem start_tag_follows (limit : Nat) (b : Builder) (r : Replay) (name : String)
    (attributes : List (String × String)) (selfClosing : Bool) (follows : b.Follows r)
    (within : r.opened.length ≤ limit) :
    let next := r.step (.startTag name attributes selfClosing)
    (limit < next.opened.length ∧
        b.startTag limit name attributes selfClosing = .error (.tooDeep limit)) ∨
      (next.opened.length ≤ limit ∧
        ∃ later, b.startTag limit name attributes selfClosing = .ok later ∧
          later.Follows next) := by
  intro next
  by_cases single : (selfClosing || isVoid name) = true
  · have recorded : next = r.record (.element name attributes) := by simp [next, Replay.step, single]
    rw [recorded]
    exact .inr ⟨within, _, by simp [Builder.startTag, single],
      push_follows b r (.element name attributes []) follows rfl (by simp [item])⟩
  · have entered : next = { r.record (.element name attributes) with opened := name :: r.opened } := by
      simp [next, Replay.step, single, Replay.record]
    have height := follows_height b r follows
    rw [entered]
    by_cases full : limit ≤ r.opened.length
    · refine .inl ⟨Nat.lt_succ_of_le full, ?_⟩
      simp [Builder.startTag, single, height, full]
    · refine .inr ⟨Nat.lt_of_not_le full, _, ?_, open_follows b r name attributes follows⟩
      simp [Builder.startTag, single, height, full]

theorem step_follows (options : Options) (b : Builder) (r : Replay) (token : Token)
    (follows : b.Follows r) (within : r.opened.length ≤ options.limit)
    (accepted : options.strict → ∀ flaw, token ≠ .flaw flaw) :
    (options.limit < (r.step token).opened.length ∧
        b.step options token = .error (.tooDeep options.limit)) ∨
      ((r.step token).opened.length ≤ options.limit ∧
        ∃ later, b.step options token = .ok later ∧ later.Follows (r.step token)) := by
  cases token with
  | startTag name attributes selfClosing =>
      exact start_tag_follows options.limit b r name attributes selfClosing follows within
  | endTag name =>
      refine .inr ⟨?_, _, rfl, end_tag_follows b r name follows⟩
      exact Nat.le_trans (Replay.leave_shorter r name) within
  | text s => exact .inr ⟨within, _, rfl, push_text_follows b r s follows⟩
  | comment s =>
      exact .inr ⟨within, _, rfl, push_follows b r (.comment s) follows rfl (by simp [item])⟩
  | doctype name =>
      exact .inr ⟨within, _, rfl, push_follows b r (.doctype name) follows rfl (by simp [item])⟩
  | flaw flaw =>
      have lenient : options.strict = false := by
        cases strict : options.strict with
        | false => rfl
        | true => exact absurd rfl (accepted strict flaw)
      refine .inr ⟨within, _, by simp only [Builder.step, lenient]; rfl, ?_⟩
      exact ⟨follows.names, follows.outline⟩

theorem run_follows (options : Options) (tokens : List Token) (b : Builder) (r : Replay)
    (follows : b.Follows r) (within : r.opened.length ≤ options.limit)
    (accepted : options.strict → ∀ flaw, .flaw flaw ∉ tokens) :
    (r.Overflows options.limit tokens ∧
        (b.run options tokens).2 = some (.tooDeep options.limit)) ∨
      (¬ r.Overflows options.limit tokens ∧
        ∃ later, b.run options tokens = (later, none) ∧ later.Follows (r.run tokens)) := by
  induction tokens generalizing b r with
  | nil =>
      refine .inr ⟨?_, b, rfl, follows⟩
      rintro ⟨count, exceeds⟩
      rw [List.take_nil] at exceeds
      exact absurd exceeds (Nat.not_lt.mpr within)
  | cons token rest ih =>
      have here : options.strict → ∀ flaw, token ≠ .flaw flaw := by
        intro strict flaw same
        exact accepted strict flaw (same ▸ List.mem_cons_self)
      have behind : options.strict → ∀ flaw, .flaw flaw ∉ rest :=
        fun strict flaw member => accepted strict flaw (List.mem_cons_of_mem _ member)
      rcases step_follows options b r token follows within here with
        ⟨exceeds, failed⟩ | ⟨fits, later, stepped, followed⟩
      · refine .inl ⟨Replay.overflows_at_once options.limit r token rest exceeds, ?_⟩
        simp only [Builder.run, failed]
      · have continued : r.run (token :: rest) = (r.step token).run rest := rfl
        rw [Replay.overflows_cons options.limit r token rest within, continued]
        simpa only [Builder.run, stepped] using ih later (r.step token) followed fits behind

theorem empty_follows : Builder.empty.Follows Replay.start := ⟨rfl, rfl⟩

theorem build_follows (options : Options) (tokens : List Token)
    (accepted : options.strict → ∀ flaw, .flaw flaw ∉ tokens) :
    (Replay.start.Overflows options.limit tokens ∧
        (build options tokens).outcome = .error (.tooDeep options.limit)) ∨
      (¬ Replay.start.Overflows options.limit tokens ∧
        ∃ b : Builder, (build options tokens).outcome = .ok b.finish.top.reverse ∧
          b.Follows (Replay.start.run tokens)) := by
  rcases run_follows options tokens .empty .start empty_follows (Nat.zero_le _) accepted with
    ⟨exceeds, failed⟩ | ⟨fits, b, finished, follows⟩
  · rcases run : Builder.empty.run options tokens with ⟨b, failure⟩
    rw [run] at failed
    simp only at failed
    exact .inl ⟨exceeds, by simp only [build, run, failed]⟩
  · exact .inr ⟨fits, b, by simp only [build, finished], follows⟩

theorem build_replays_stack (options : Options) (tokens : List Token)
    (accepted : options.strict → ∀ flaw, .flaw flaw ∉ tokens) :
    ((build options tokens).outcome = .error (.tooDeep options.limit) ↔
        Replay.start.Overflows options.limit tokens) ∧
      (¬ Replay.start.Overflows options.limit tokens →
        ∃ document, (build options tokens).outcome = .ok document ∧
          outlineOf 0 document = Line.joinTexts (Replay.start.run tokens).lines ∧
          ∀ other, outlineOf 0 other = outlineOf 0 document → other = document) := by
  rcases run_follows options tokens .empty .start empty_follows (Nat.zero_le _) accepted with
    ⟨exceeds, failed⟩ | ⟨fits, b, finished, follows⟩
  · have outcome : (build options tokens).outcome = .error (.tooDeep options.limit) := by
      rcases built : Builder.empty.run options tokens with ⟨b, failure⟩
      rw [built] at failed
      simp only at failed
      simp only [build, built, failed]
    exact ⟨⟨fun _ => exceeds, fun _ => outcome⟩, fun fits => absurd exceeds fits⟩
  · have outcome : (build options tokens).outcome = .ok b.finish.top.reverse := by
      simp only [build, finished]
    refine ⟨⟨fun failed => ?_, fun exceeds => absurd exceeds fits⟩, fun _ => ?_⟩
    · rw [outcome] at failed
      cases failed
    · refine ⟨_, outcome, ?_, fun other same => outline_of_injective 0 other _ same⟩
      rw [Builder.finished_outline, follows.outline]

def untidyTokens : List Token :=
  [.startTag "div" [] false, .startTag "p" [("a", "1")] false, .text "a", .flaw .missingEndTagName,
    .endTag "span", .text "b", .endTag "div", .text "c", .startTag "br" [] false, .text "d"]

theorem build_replays_untidy_tokens :
    (Options.strict ⟨false, 2⟩ → ∀ flaw, .flaw flaw ∉ untidyTokens) ∧
      ¬ Replay.start.Overflows 2 untidyTokens ∧
      ∃ document, (build ⟨false, 2⟩ untidyTokens).outcome = .ok document ∧
        outlineOf 0 document =
          [⟨0, .element "div" []⟩, ⟨1, .element "p" [("a", "1")]⟩, ⟨2, .text "ab"⟩, ⟨0, .text "c"⟩,
            ⟨0, .element "br" []⟩, ⟨0, .text "d"⟩] := by
  have accepted : Options.strict ⟨false, 2⟩ → ∀ flaw, .flaw flaw ∉ untidyTokens := by
    intro strict
    cases strict
  obtain ⟨failure, success⟩ := build_replays_stack ⟨false, 2⟩ untidyTokens accepted
  have built : ∃ document, (build ⟨false, 2⟩ untidyTokens).outcome = .ok document := ⟨_, rfl⟩
  have fits : ¬ Replay.start.Overflows 2 untidyTokens := by
    intro exceeds
    obtain ⟨document, outcome⟩ := built
    rw [failure.mpr exceeds] at outcome
    cases outcome
  obtain ⟨document, outcome, lines, _⟩ := success fits
  exact ⟨accepted, fits, document, outcome, lines.trans (by decide)⟩

end HtmlTemplate.Dom
