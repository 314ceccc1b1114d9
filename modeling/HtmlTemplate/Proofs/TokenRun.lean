import HtmlTemplate.Proofs.BuilderOutline
import HtmlTemplate.Proofs.Reading

/-!
What a builder makes of tokens does not depend on the flaws between them, unless it is strict, nor
on the pieces in which a text comes.
-/

set_option autoImplicit false

namespace HtmlTemplate.Dom

open Markup (Token Found)

namespace Builder

def silent (b : Builder) : Builder :=
  { b with notices := [] }

theorem modify_current_silent (b : Builder) (f : List Dom → List Dom) :
    (b.modifyCurrent f).silent = (b.silent.modifyCurrent f).silent := by
  obtain ⟨opened, top, notices⟩ := b
  cases opened <;> rfl

theorem close_innermost_silent (b : Builder) :
    b.closeInnermost.silent = b.silent.closeInnermost.silent := by
  obtain ⟨opened, top, notices⟩ := b
  cases opened with
  | nil => rfl
  | cons frame outer => exact modify_current_silent ⟨outer, top, notices⟩ (frame.close :: ·)

theorem close_silent (n : Nat) (b : Builder) : (close n b).silent = (close n b.silent).silent := by
  induction n generalizing b with
  | zero => rfl
  | succ n ih => rw [close, close, ih, close_innermost_silent, ← ih]

theorem end_tag_silent (b : Builder) (name : String) :
    (b.endTag name).silent = (b.silent.endTag name).silent := by
  have opened : b.silent.opened = b.opened := rfl
  unfold endTag
  rw [opened]
  split
  · exact close_silent _ b
  · split <;> rfl

theorem start_tag_silent (limit : Nat) (b : Builder) (name : String)
    (attributes : List (String × String)) (selfClosing : Bool) :
    (b.startTag limit name attributes selfClosing).map silent =
      (b.silent.startTag limit name attributes selfClosing).map silent := by
  have opened : b.silent.opened = b.opened := rfl
  unfold startTag
  rw [opened]
  split
  · exact congrArg Except.ok (modify_current_silent b _)
  · split <;> rfl

theorem step_silent (limit : Nat) (b : Builder) (token : Token) :
    (b.step ⟨false, limit⟩ token).map silent = (b.silent.step ⟨false, limit⟩ token).map silent := by
  cases token with
  | startTag name attributes selfClosing =>
      exact start_tag_silent limit b name attributes selfClosing
  | endTag name => exact congrArg Except.ok (end_tag_silent b name)
  | text s => exact congrArg Except.ok (modify_current_silent b (joinText s))
  | comment s => exact congrArg Except.ok (modify_current_silent b (.comment s :: ·))
  | doctype name => exact congrArg Except.ok (modify_current_silent b (.doctype name :: ·))
  | flaw f => rfl

theorem step_same (limit : Nat) (b other : Builder) (token : Token)
    (same : b.silent = other.silent) :
    (b.step ⟨false, limit⟩ token).map silent = (other.step ⟨false, limit⟩ token).map silent := by
  rw [step_silent, same, ← step_silent]

-- Flaws change nothing but the notices, so that a run may leave them out.
theorem run_flawless (limit : Nat) (tokens : List Token) (b other : Builder)
    (same : b.silent = other.silent) :
    let found := b.run ⟨false, limit⟩ tokens
    let kept := other.run ⟨false, limit⟩ (tokens.filter (!·.isFlaw))
    found.1.silent = kept.1.silent ∧ found.2 = kept.2 := by
  induction tokens generalizing b other with
  | nil => exact ⟨same, rfl⟩
  | cons token rest ih =>
      have stepped := step_same limit b other token same
      cases flawed : token.isFlaw with
      | true =>
          -- The builder that sees the flaw only has one notice more.
          obtain ⟨flaw, rfl⟩ : ∃ flaw, token = .flaw flaw := by
            cases token <;> first | exact ⟨_, rfl⟩ | cases flawed
          exact ih (b.notice (.ignoredFlaw flaw)) other same
      | false =>
          rw [List.filter_cons_of_pos (by simpa using flawed)]
          cases here : b.step ⟨false, limit⟩ token with
          | ok next =>
              cases there : other.step ⟨false, limit⟩ token with
              | ok follower =>
                  rw [here, there] at stepped
                  simp only [run, here, there]
                  exact ih next follower (Except.ok.inj stepped)
              | error e =>
                  rw [here, there] at stepped
                  cases stepped
          | error e =>
              cases there : other.step ⟨false, limit⟩ token with
              | ok follower =>
                  rw [here, there] at stepped
                  cases stepped
              | error e' =>
                  rw [here, there] at stepped
                  simp only [run, here, there]
                  exact ⟨same, congrArg some (Except.error.inj stepped)⟩

theorem finish_silent (b : Builder) : b.finish.silent = b.silent.finish.silent := by
  obtain ⟨opened, top, notices⟩ := b
  cases opened with
  | nil => rfl
  | cons frame outer =>
      have told := close_silent (outer.length + 1)
      have loud := told (notice ⟨frame :: outer, top, notices⟩ (.leftOpen (outer.length + 1)))
      have still := told (notice ⟨frame :: outer, top, []⟩ (.leftOpen (outer.length + 1)))
      exact loud.trans still.symm

theorem finish_same (b other : Builder) (same : b.silent = other.silent) :
    b.finish.silent = other.finish.silent := by
  rw [finish_silent, same, ← finish_silent]

theorem run_append (options : Options) (b : Builder) (tokens others : List Token) :
    b.run options (tokens ++ others) =
      match b.run options tokens with
      | (next, none) => next.run options others
      | (next, some e) => (next, some e) := by
  induction tokens generalizing b with
  | nil => rfl
  | cons token rest ih =>
      simp only [List.cons_append, run]
      cases b.step options token with
      | ok next => exact ih next
      | error e => rfl

theorem push_text_twice (b : Builder) (s t : String) :
    (b.pushText s).pushText t = b.pushText (s ++ t) := by
  have joined (nodes : List Dom) : joinText t (joinText s nodes) = joinText (s ++ t) nodes := by
    cases nodes with
    | nil => rfl
    | cons node rest => cases node <;> simp [joinText, String.append_assoc]
  obtain ⟨opened, top, notices⟩ := b
  cases opened <;> simp [pushText, modifyCurrent, joined]

theorem run_take (options : Options) (b : Builder) (found : Found) (token : Token)
    (rest : List Token) (counts : token.isFlaw = false) (written : token ≠ .text "") :
    b.run options ((found.take token).all.reverse ++ rest) =
      b.run options (found.all.reverse ++ token :: rest) := by
  have emitted : (found.emit token).all = token :: found.all := by simp [Found.emit, Found.all]
  have placed : (found.emit token).all.reverse ++ rest = found.all.reverse ++ token :: rest := by
    simp [emitted]
  cases token with
  | startTag name attributes selfClosing => exact congrArg (b.run options) placed
  | endTag name => exact congrArg (b.run options) placed
  | comment s => exact congrArg (b.run options) placed
  | doctype name => exact congrArg (b.run options) placed
  | flaw f => cases counts
  | text s =>
      have inhabited : s ≠ "" := fun empty => written (congrArg Token.text empty)
      by_cases bare : found.text = ""
      · simp [Found.take, Found.write, Found.all, bare, inhabited]
      · have joined : (found.write s).all = .text (found.text ++ s) :: found.tokens := by
          simp [Found.write, Found.all, bare]
        have apart : found.all = .text found.text :: found.tokens := by simp [Found.all, bare]
        rw [Found.take, joined, apart, List.reverse_cons, List.reverse_cons, List.append_assoc,
          List.append_assoc, run_append, run_append]
        simp only [List.singleton_append, run, step, push_text_twice]

theorem run_take_all (options : Options) (b : Builder) (found : Found) (tokens : List Token)
    (plain : ∀ token ∈ tokens, token.isFlaw = false ∧ token ≠ .text "") :
    b.run options (found.takeAll tokens).all.reverse =
      b.run options (found.all.reverse ++ tokens) := by
  induction tokens generalizing found with
  | nil => simp [Found.takeAll]
  | cons token rest ih =>
      obtain ⟨counts, written⟩ := plain token (List.mem_cons_self ..)
      rw [← run_take options b found token rest counts written]
      exact ih (found.take token) fun token member => plain token (List.mem_cons_of_mem _ member)

end Builder

theorem build_flawless (limit : Nat) (tokens : List Token) :
    (build ⟨false, limit⟩ tokens).outcome =
      (build ⟨false, limit⟩ (tokens.filter (!·.isFlaw))).outcome := by
  obtain ⟨same, failure⟩ := Builder.run_flawless limit tokens .empty .empty rfl
  unfold build
  generalize Builder.empty.run ⟨false, limit⟩ tokens = found at same failure ⊢
  generalize Builder.empty.run ⟨false, limit⟩ (tokens.filter (!·.isFlaw)) = kept at same failure ⊢
  obtain ⟨b, reason⟩ := found
  obtain ⟨kept, other⟩ := kept
  obtain rfl : reason = other := failure
  cases reason with
  | some e => rfl
  | none =>
      have finished := Builder.finish_same b kept same
      exact congrArg (fun b => Except.ok b.top.reverse) finished

end HtmlTemplate.Dom
