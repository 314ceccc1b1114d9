import HtmlTemplate.Proofs.StackReplay
import HtmlTemplate.Proofs.TokenRun

/-!
Strict and lenient building. Both follow the same stack of names; a strict builder stops at the
first flaw where a lenient one warns and goes on. What a lenient builder warns of is known from the
tokens and the stack.
-/

set_option autoImplicit false

namespace HtmlTemplate.Dom

open Markup (Token)

namespace Replay

def warning? (r : Replay) : Token → Option String
  | .flaw flaw => some ("W: " ++ ("HTML5 parsing error (ignored): " ++ flaw.code))
  | .endTag name =>
    if name ∈ r.opened || isVoid name then none
    else some ("W: " ++ ("ignoring end tag </" ++ name ++ "> without matching start tag"))
  | _ => none

-- The warnings at the tokens that come before the stack is longer than `limit`.
def warnings (limit : Nat) (r : Replay) : List Token → List String
  | [] => []
  | token :: rest =>
    if limit < (r.step token).opened.length then []
    else (r.warning? token).toList ++ (r.step token).warnings limit rest

-- What ends strict building at a token.
inductive Stops (limit : Nat) (r : Replay) : Token → Error → Prop
  | flaw (flaw : Markup.Flaw) : Stops limit r (.flaw flaw) (.malformedMarkup flaw)
  | tooDeep (name : String) (attributes : List (String × String)) (selfClosing : Bool) :
      limit < (r.step (.startTag name attributes selfClosing)).opened.length →
      Stops limit r (.startTag name attributes selfClosing) (.tooDeep limit)

def FirstStop (limit : Nat) (r : Replay) (tokens : List Token) (e : Error) : Prop :=
  ∃ before token after, tokens = before ++ token :: after ∧ (∀ flaw, .flaw flaw ∉ before) ∧
    ¬ r.Overflows limit before ∧ (r.run before).Stops limit token e

theorem not_overflows_nil (limit : Nat) (r : Replay) (within : r.opened.length ≤ limit) :
    ¬ r.Overflows limit [] := by
  rintro ⟨count, exceeds⟩
  rw [List.take_nil] at exceeds
  exact absurd exceeds (Nat.not_lt.mpr within)

theorem not_overflows_length (limit : Nat) (r : Replay) (tokens : List Token)
    (fits : ¬ r.Overflows limit tokens) : (r.run tokens).opened.length ≤ limit := by
  refine Nat.le_of_not_lt fun exceeds => fits ⟨tokens.length, ?_⟩
  rwa [List.take_length]

theorem stops_of_exceeds (limit : Nat) (r : Replay) (token : Token)
    (within : r.opened.length ≤ limit) (exceeds : limit < (r.step token).opened.length) :
    r.Stops limit token (.tooDeep limit) := by
  cases token with
  | startTag name attributes selfClosing => exact .tooDeep name attributes selfClosing exceeds
  | endTag name =>
      exact absurd exceeds (Nat.not_lt.mpr (Nat.le_trans (leave_shorter r name) within))
  | text s => exact absurd exceeds (Nat.not_lt.mpr within)
  | comment s => exact absurd exceeds (Nat.not_lt.mpr within)
  | doctype name => exact absurd exceeds (Nat.not_lt.mpr within)
  | flaw flaw => exact absurd exceeds (Nat.not_lt.mpr within)

theorem first_stop_here (limit : Nat) (r : Replay) (token : Token) (rest : List Token) (e : Error)
    (within : r.opened.length ≤ limit) (stops : r.Stops limit token e) :
    r.FirstStop limit (token :: rest) e :=
  ⟨[], token, rest, rfl, fun _ => List.not_mem_nil, not_overflows_nil limit r within, stops⟩

theorem first_stop_later (limit : Nat) (r : Replay) (token : Token) (rest : List Token) (e : Error)
    (within : r.opened.length ≤ limit) (passes : ∀ flaw, token ≠ .flaw flaw)
    (stopped : (r.step token).FirstStop limit rest e) : r.FirstStop limit (token :: rest) e := by
  obtain ⟨before, last, after, split, flawless, fits, stops⟩ := stopped
  refine ⟨token :: before, last, after, by rw [split, List.cons_append], ?_, ?_, stops⟩
  · intro flaw member
    rcases List.mem_cons.mp member with same | behind
    · exact passes flaw same.symm
    · exact flawless flaw behind
  · rwa [overflows_cons limit r token before within]

theorem first_stop_or_clear (limit : Nat) (tokens : List Token) (r : Replay)
    (within : r.opened.length ≤ limit) :
    (∃ e, r.FirstStop limit tokens e) ∨
      ((∀ flaw, .flaw flaw ∉ tokens) ∧ ¬ r.Overflows limit tokens) := by
  induction tokens generalizing r with
  | nil => exact .inr ⟨fun _ => List.not_mem_nil, not_overflows_nil limit r within⟩
  | cons token rest ih =>
      by_cases flawed : ∃ flaw, token = .flaw flaw
      · obtain ⟨flaw, rfl⟩ := flawed
        exact .inl ⟨_, first_stop_here limit r _ rest _ within (.flaw flaw)⟩
      · have passes : ∀ flaw, token ≠ .flaw flaw := fun flaw same => flawed ⟨flaw, same⟩
        by_cases exceeds : limit < (r.step token).opened.length
        · exact .inl ⟨_, first_stop_here limit r token rest _ within
            (stops_of_exceeds limit r token within exceeds)⟩
        · rcases ih (r.step token) (Nat.le_of_not_lt exceeds) with ⟨e, stopped⟩ | ⟨flawless, fits⟩
          · exact .inl ⟨e, first_stop_later limit r token rest e within passes stopped⟩
          · refine .inr ⟨fun flaw member => ?_, ?_⟩
            · rcases List.mem_cons.mp member with same | behind
              · exact passes flaw same.symm
              · exact flawless flaw behind
            · rwa [overflows_cons limit r token rest within]

end Replay

namespace Builder

def warned (b : Builder) : List String :=
  Channel.quiet.lines b.notices.reverse

theorem notice_warned (b : Builder) (n : Notice) :
    (b.notice n).warned = b.warned ++ if n.isWarning then [n.line] else [] := by
  cases n <;> simp [warned, notice, Channel.lines, Channel.shows, Channel.quiet, Notice.isWarning]

theorem ignored_flaw_line (flaw : Markup.Flaw) :
    (Notice.ignoredFlaw flaw).line = "W: " ++ ("HTML5 parsing error (ignored): " ++ flaw.code) := rfl

theorem stray_end_tag_line (name : String) :
    (Notice.strayEndTag name).line =
      "W: " ++ ("ignoring end tag </" ++ name ++ "> without matching start tag") := rfl

theorem modify_current_warned (b : Builder) (f : List Dom → List Dom) :
    (b.modifyCurrent f).warned = b.warned := by
  obtain ⟨opened, top, notices⟩ := b
  cases opened <;> rfl

theorem close_innermost_warned (b : Builder) : b.closeInnermost.warned = b.warned := by
  obtain ⟨opened, top, notices⟩ := b
  cases opened with
  | nil => rfl
  | cons frame outer => exact modify_current_warned ⟨outer, top, notices⟩ (frame.close :: ·)

theorem close_warned (count : Nat) (b : Builder) : (close count b).warned = b.warned := by
  induction count generalizing b with
  | zero => rfl
  | succ count ih => rw [close, ih, close_innermost_warned]

-- That elements were left open is no warning.
theorem finish_warned (b : Builder) : b.finish.warned = b.warned := by
  unfold finish
  split
  · rfl
  · rw [close_warned, notice_warned]
    exact List.append_nil _

theorem start_tag_warned (limit : Nat) (b later : Builder) (name : String)
    (attributes : List (String × String)) (selfClosing : Bool)
    (started : b.startTag limit name attributes selfClosing = .ok later) :
    later.warned = b.warned := by
  unfold startTag at started
  split at started
  · cases started
    exact modify_current_warned b _
  · split at started
    · cases started
    · cases started
      rfl

theorem end_tag_warned (b : Builder) (r : Replay) (name : String) (names : b.names = r.opened) :
    (b.endTag name).warned = b.warned ++ (r.warning? (.endTag name)).toList := by
  unfold endTag
  split
  · rename_i index found
    have member : name ∈ r.opened := by
      rw [← names]
      exact (drop_while_index b.opened name index found).1
    simp [close_warned, Replay.warning?, member]
  · rename_i missing
    have absent : name ∉ r.opened := by
      rw [← names]
      simpa [names, Builder.names, List.findIdx?_eq_none_iff] using missing
    split
    · rename_i void
      simp [Replay.warning?, void]
    · rename_i lasting
      have stray : ¬ (name ∈ r.opened || isVoid name) = true := by simp [absent, lasting]
      rw [notice_warned, stray_end_tag_line, Replay.warning?, if_neg stray]
      rfl

theorem step_warned (limit : Nat) (b later : Builder) (r : Replay) (token : Token)
    (names : b.names = r.opened) (stepped : b.step ⟨false, limit⟩ token = .ok later) :
    later.warned = b.warned ++ (r.warning? token).toList := by
  cases token with
  | startTag name attributes selfClosing =>
      rw [start_tag_warned limit b later name attributes selfClosing stepped]
      exact (List.append_nil _).symm
  | endTag name =>
      cases stepped
      exact end_tag_warned b r name names
  | text s =>
      cases stepped
      exact (modify_current_warned b _).trans (List.append_nil _).symm
  | comment s =>
      cases stepped
      exact (modify_current_warned b _).trans (List.append_nil _).symm
  | doctype name =>
      cases stepped
      exact (modify_current_warned b _).trans (List.append_nil _).symm
  | flaw flaw =>
      cases stepped
      rw [notice_warned, ignored_flaw_line]
      rfl

theorem run_warned (limit : Nat) (tokens : List Token) (b : Builder) (r : Replay)
    (follows : b.Follows r) (within : r.opened.length ≤ limit) :
    (b.run ⟨false, limit⟩ tokens).1.warned = b.warned ++ r.warnings limit tokens := by
  induction tokens generalizing b r with
  | nil => exact (List.append_nil _).symm
  | cons token rest ih =>
      rcases step_follows ⟨false, limit⟩ b r token follows within nofun with
        ⟨exceeds, failed⟩ | ⟨fits, later, stepped, followed⟩
      · simp only [run, failed, Replay.warnings, if_pos exceeds, List.append_nil]
      · simp only [run, stepped, Replay.warnings, if_neg (Nat.not_lt.mpr fits)]
        rw [ih later (r.step token) followed fits, step_warned limit b later r token follows.names
          stepped, List.append_assoc]

theorem run_strict_flawless (limit : Nat) (tokens : List Token) (b : Builder)
    (flawless : ∀ flaw, .flaw flaw ∉ tokens) :
    b.run ⟨true, limit⟩ tokens = b.run ⟨false, limit⟩ tokens := by
  induction tokens generalizing b with
  | nil => rfl
  | cons token rest ih =>
      have behind : ∀ flaw, .flaw flaw ∉ rest :=
        fun flaw member => flawless flaw (List.mem_cons_of_mem _ member)
      have same : b.step ⟨true, limit⟩ token = b.step ⟨false, limit⟩ token := by
        cases token with
        | flaw flaw => exact absurd List.mem_cons_self (flawless flaw)
        | _ => rfl
      simp only [run, same, ih _ behind]

theorem step_stops (limit : Nat) (b : Builder) (r : Replay) (token : Token) (e : Error)
    (follows : b.Follows r) (within : r.opened.length ≤ limit) (stops : r.Stops limit token e) :
    b.step ⟨true, limit⟩ token = .error e := by
  cases stops with
  | flaw flaw => rfl
  | tooDeep name attributes selfClosing exceeds =>
      rcases start_tag_follows limit b r name attributes selfClosing follows within with
        ⟨_, failed⟩ | ⟨fits, _⟩
      · exact failed
      · exact absurd exceeds (Nat.not_lt.mpr fits)

theorem run_first_stop (limit : Nat) (tokens : List Token) (b : Builder) (r : Replay) (e : Error)
    (follows : b.Follows r) (within : r.opened.length ≤ limit)
    (stopped : r.FirstStop limit tokens e) : (b.run ⟨true, limit⟩ tokens).2 = some e := by
  obtain ⟨before, token, after, rfl, flawless, fits, stops⟩ := stopped
  rcases run_follows ⟨true, limit⟩ before b r follows within (fun _ => flawless) with
    ⟨exceeds, _⟩ | ⟨_, later, reached, followed⟩
  · exact absurd exceeds fits
  · have last := step_stops limit later (r.run before) token e followed
      (Replay.not_overflows_length limit r before fits) stops
    simp only [run_append, reached, run, last]

end Builder

theorem build_first_stop (limit : Nat) (tokens : List Token) (e : Error)
    (stopped : Replay.start.FirstStop limit tokens e) :
    (build ⟨true, limit⟩ tokens).outcome = .error e := by
  have failed := Builder.run_first_stop limit tokens .empty .start e empty_follows (Nat.zero_le _)
    stopped
  rcases finished : Builder.empty.run ⟨true, limit⟩ tokens with ⟨b, failure⟩
  rw [finished] at failed
  simp only at failed
  simp only [build, finished, failed]

theorem build_strict_flawless (limit : Nat) (tokens : List Token)
    (flawless : ∀ flaw, .flaw flaw ∉ tokens) :
    build ⟨true, limit⟩ tokens = build ⟨false, limit⟩ tokens := by
  simp only [build, Builder.run_strict_flawless limit tokens .empty flawless]

theorem build_warned (limit : Nat) (tokens : List Token) :
    Channel.quiet.lines (build ⟨false, limit⟩ tokens).notices =
      Replay.start.warnings limit tokens := by
  have warned := Builder.run_warned limit tokens .empty .start empty_follows (Nat.zero_le _)
  rcases finished : Builder.empty.run ⟨false, limit⟩ tokens with ⟨b, failure⟩
  rw [finished] at warned
  cases failure with
  | some e =>
      simp only [build, finished]
      exact warned
  | none =>
      simp only [build, finished]
      exact (Builder.finish_warned b).trans warned

theorem building_modes_agree (limit : Nat) (tokens : List Token) :
    let lenient := build ⟨false, limit⟩ tokens
    let strict := build ⟨true, limit⟩ tokens
    (∀ e, lenient.outcome = .error e → e = .tooDeep limit) ∧
      (∀ document, strict.outcome = .ok document ↔
        (∀ flaw, .flaw flaw ∉ tokens) ∧ lenient.outcome = .ok document) ∧
      (∀ e, strict.outcome = .error e ↔ Replay.start.FirstStop limit tokens e) ∧
      (∀ flaw, (Error.malformedMarkup flaw).message = "HTML5 parsing error: " ++ flaw.code) ∧
      Channel.quiet.lines lenient.notices = Replay.start.warnings limit tokens ∧
      lenient.outcome = (build ⟨false, limit⟩ (tokens.filter (!·.isFlaw))).outcome := by
  intro lenient strict
  have stops : ∀ e, Replay.start.FirstStop limit tokens e → strict.outcome = .error e :=
    build_first_stop limit tokens
  have flawless : (∀ flaw, .flaw flaw ∉ tokens) → strict = lenient :=
    build_strict_flawless limit tokens
  have clear := Replay.first_stop_or_clear limit tokens .start (Nat.zero_le _)
  refine ⟨fun e failed => ?_, fun document => ⟨fun built => ?_, fun ⟨clean, built⟩ => ?_⟩,
    fun e => ⟨fun failed => ?_, stops e⟩, fun flaw => rfl, build_warned limit tokens,
    build_flawless limit tokens⟩
  · rcases build_follows ⟨false, limit⟩ tokens nofun with ⟨_, deep⟩ | ⟨_, _, built, _⟩
    · exact (Except.error.inj (deep.symm.trans failed)).symm
    · cases built.symm.trans failed
  · rcases clear with ⟨e, stopped⟩ | ⟨clean, _⟩
    · cases built.symm.trans (stops e stopped)
    · exact ⟨clean, flawless clean ▸ built⟩
  · rwa [flawless clean]
  · rcases clear with ⟨first, stopped⟩ | ⟨clean, fits⟩
    · rwa [← Except.error.inj ((stops first stopped).symm.trans failed)]
    · rw [flawless clean] at failed
      rcases build_follows ⟨false, limit⟩ tokens nofun with ⟨exceeds, _⟩ | ⟨_, _, built, _⟩
      · exact absurd exceeds fits
      · cases built.symm.trans failed

-- A flaw comes before the start tag that is one too many, which hides a second flaw.
def flawedTokens : List Token :=
  [.endTag "b", .startTag "p" [] false, .flaw .missingEndTagName, .endTag "br", .text "a",
    .startTag "b" [] false, .flaw .eofInTag]

theorem building_modes_at_flaws :
    Replay.start.FirstStop 1 flawedTokens (.malformedMarkup .missingEndTagName) ∧
      Replay.start.FirstStop 1 (flawedTokens.filter (!·.isFlaw)) (.tooDeep 1) ∧
      Channel.quiet.lines (build ⟨false, 1⟩ flawedTokens).notices =
        ["W: ignoring end tag </b> without matching start tag",
          "W: HTML5 parsing error (ignored): missing-end-tag-name"] := by
  obtain ⟨_, _, stops, _, warned, _⟩ := building_modes_agree 1 flawedTokens
  obtain ⟨_, _, deep, _⟩ := building_modes_agree 1 (flawedTokens.filter (!·.isFlaw))
  exact ⟨(stops _).mp rfl, (deep _).mp rfl, warned.trans (by decide +kernel)⟩

end HtmlTemplate.Dom
