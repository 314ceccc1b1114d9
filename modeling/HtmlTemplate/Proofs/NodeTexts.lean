import HtmlTemplate.Node.Reader
import HtmlTemplate.Proofs.FirstDeferred
import HtmlTemplate.Proofs.PositionEnding
import Mathlib.Data.List.TakeWhile

/-!
Two ways to read a node from a text, and the two outcomes of writing one. The ways to read differ
in what is looked at first, the value or what trails it, and so only in their failures. What is told
of a node without a form is the message that points at its first deferred value, but for a position
at the end of that message.
-/

set_option autoImplicit false

namespace HtmlTemplate

namespace Json

def trailing (text : String) (rest : List Char) : Malformed :=
  (Stop.next .trailingCharacters (skipBlank rest)).within text

theorem skip_blank_nil (rest : List Char) : skipBlank rest = [] ↔ rest.all isBlank := by
  rw [skipBlank, List.dropWhile_eq_nil_iff, List.all_eq_true]

theorem read_end_cases (rest : List Char) :
    readEnd rest =
      if rest.all isBlank then .ok () else .error (.next .trailingCharacters (skipBlank rest)) := by
  rw [readEnd]
  cases skipped : skipBlank rest with
  | nil => rw [if_pos ((skip_blank_nil rest).mp skipped)]
  | cons c more =>
      have sharp : ¬ rest.all isBlank := by
        rw [← skip_blank_nil, skipped]
        exact List.cons_ne_nil c more
      rw [if_neg sharp]

theorem read_by_front (text : String) :
    read text =
      match readFront text with
      | .error m => .error m
      | .ok (value, rest) =>
        if rest.all isBlank then .ok value else .error (trailing text rest) := by
  rw [read, readWithin, readFront]
  cases readValue nestingLimit text.toList with
  | error stop => rfl
  | ok front =>
      obtain ⟨value, rest⟩ := front
      simp only [Except.mapError, read_end_cases]
      cases rest.all isBlank <;> rfl

end Json

namespace Pointer

theorem unescape_plain (ending : List Char) (plain : '~' ∉ ending) : unescape ending = ending := by
  induction ending with
  | nil => rfl
  | cons c rest ih =>
      obtain ⟨sharp, further⟩ := not_or.mp (List.mem_cons.not.mp plain)
      rw [unescape_unchanged c rest (Ne.symm sharp), ih further]

-- A space does not complete an escape that is open at the end of a text.
theorem unescape_append (text ending : List Char) (plain : '~' ∉ ending)
    (spaced : ∃ rest, ending = ' ' :: rest) :
    unescape (text ++ ending) = unescape text ++ ending := by
  induction text using unescape.induct with
  | case1 rest ih => simp [unescape, ih]
  | case2 rest ih => simp [unescape, ih]
  | case3 c rest one zero ih =>
      obtain ⟨behind, rfl⟩ := spaced
      have goes (d : Char) (mark : d ≠ ' ') (more : List Char)
          (next : rest ++ ' ' :: behind = d :: more) : ∃ others, rest = d :: others := by
        cases rest with
        | nil => exact absurd (List.cons.inj next).1.symm mark
        | cons _ others => exact ⟨others, congrArg (· :: others) (List.cons.inj next).1⟩
      rw [List.cons_append, unescape.eq_3, unescape.eq_3 c rest one zero, ih, List.cons_append]
      · intro more tilde next
        obtain ⟨others, same⟩ := goes '1' (by decide) more next
        exact one others tilde same
      · intro more tilde next
        obtain ⟨others, same⟩ := goes '0' (by decide) more next
        exact zero others tilde same
  | case4 => simp [unescape, unescape_plain ending plain]

theorem escape_plain (ending : List Char) (plain : '~' ∉ ending) (slashless : '/' ∉ ending) :
    ending.flatMap escape = ending := by
  induction ending with
  | nil => rfl
  | cons c rest ih =>
      rw [List.mem_cons, not_or] at plain slashless
      rw [List.flatMap_cons, ih plain.2 slashless.2,
        escape_unchanged c (Ne.symm plain.1) (Ne.symm slashless.1), List.singleton_append]

theorem text_concat (front : List String) (key : String) :
    (text (front ++ [key])).toList = (text front).toList ++ '/' :: key.toList.flatMap escape := by
  simp [text, keyText]

-- The escapes of the last key hide nothing of an ending without escapes, and add nothing to it.
theorem key_suffix_iff (ahead key ending : List Char) (spaced : ∃ rest, ending = ' ' :: rest)
    (plain : '~' ∉ ending) (slashless : '/' ∉ ending) :
    ending <:+ ahead ++ '/' :: key.flatMap escape ↔ ending <:+ key := by
  constructor
  · intro behind
    have inside : ending <:+ key.flatMap escape := by
      rcases List.suffix_or_suffix_of_suffix behind (List.suffix_append ahead _) with short | long
      · rcases List.suffix_cons_iff.mp short with whole | inside
        · exact absurd (whole ▸ List.mem_cons_self) slashless
        · exact inside
      · exact absurd (long.mem List.mem_cons_self) slashless
    obtain ⟨front, whole⟩ := inside
    refine ⟨unescape front, ?_⟩
    rw [← unescape_append front ending plain spaced, whole, unescape_escape]
  · rintro ⟨start, rfl⟩
    refine ⟨ahead ++ '/' :: start.flatMap escape, ?_⟩
    rw [List.flatMap_append, escape_plain ending plain slashless, List.append_assoc,
      List.cons_append]

end Pointer

namespace Node

open Json (readFront readEnd isBlank trailing)
open Json.Refusal (EndsIn EndsPlain Retold)

theorem from_text_by_front (text : String) :
    fromText text =
      match readFront text with
      | .error m => .error (.malformedJson m)
      | .ok (value, rest) =>
        if rest.all isBlank then fromJson value
        else .error (.malformedJson (trailing text rest)) := by
  rw [fromText, Json.read_by_front]
  cases readFront text with
  | error m => rfl
  | ok front =>
      obtain ⟨value, rest⟩ := front
      dsimp only
      cases rest.all isBlank <;> rfl

theorem decode_by_front (text : String) :
    decode text =
      match readFront text with
      | .error m => .error (.malformedJson m)
      | .ok (value, rest) =>
        match fromJson value with
        | .error e => .error (.refusedJson (.ofText e.message))
        | .ok node =>
          if rest.all isBlank then .ok node
          else .error (.malformedJson (trailing text rest)) := by
  rw [decode]
  cases readFront text with
  | error m => rfl
  | ok front =>
      obtain ⟨value, rest⟩ := front
      simp only [Except.mapError, bind, Except.bind, Json.read_end_cases]
      cases fromJson value with
      | error e => rfl
      | ok node => cases rest.all isBlank <;> rfl

/-! The message of a node that is refused does not end in a position. -/

theorem kind_phrase_plain (kind : Json.Kind) : EndsPlain kind.phrase := by
  cases kind <;> exact ⟨_, rfl, rfl⟩

theorem reason_plain (objection : Objection) : EndsPlain objection.reason := by
  cases objection with
  | kind expected found =>
      cases expected <;> exact Json.Refusal.ends_plain_behind _ _ (kind_phrase_plain found)
  | missingParams | missingTemplate => exact ⟨_, rfl, rfl⟩
  | mixedField name => exact Json.Refusal.ends_plain_behind _ "\x60" ⟨_, rfl, rfl⟩

theorem rejection_plain (rejection : Rejection) : EndsPlain rejection.error.message := by
  have message : rejection.error.message = "invalid template node at " ++
      Error.pathText (Pointer.text rejection.pointer) ++ ": " ++ rejection.objection.reason := by
    simp [Rejection.error, Error.message, Error.messages]
  rw [message]
  exact Json.Refusal.ends_plain_behind _ _ (reason_plain rejection.objection)

theorem refused_message (r : Json.Refusal) : (Error.refusedJson r).message = r.message := by
  simp [Error.message, Error.messages]

/-! The message of a deferred value ends in a position if the name of an attribute does. -/

theorem field_plain (p : Position) : EndsPlain p.field := by
  cases p <;> simp only [Position.field] <;> exact ⟨_, rfl, rfl⟩

theorem keys_last (p : Position) (e : Element Node) (keys : List String) (deferred : Bool)
    (found : (element e).at? p = some (keys, deferred)) :
    (∃ front name, keys = front ++ ["attributes", name]) ∨
      ∃ front, ∃ q : Position, keys = front ++ [q.field] := by
  induction p generalizing e keys with
  | value i =>
      obtain ⟨_, name, _, _, _, rfl, _⟩ := (at_value _ _ _ _).mp found
      exact .inl ⟨[], name, rfl⟩
  | child i inner ih =>
      obtain ⟨_, child, others, _, _, inside, rfl⟩ := (at_child _ _ _ _ _).mp found
      obtain ⟨e, rfl⟩ := element_at child inner others deferred inside
      rcases ih e others inside with ⟨front, name, rfl⟩ | ⟨front, q, rfl⟩
      · exact .inl ⟨"body" :: Pointer.decimal i :: front, name, rfl⟩
      · exact .inr ⟨"body" :: Pointer.decimal i :: front, q, rfl⟩
  | tag =>
      obtain ⟨rfl, _⟩ := (seen_some _ _ _ _).mp found
      exact .inr ⟨[], .tag, rfl⟩
  | attributes =>
      obtain ⟨rfl, _⟩ := (seen_some _ _ _ _).mp found
      exact .inr ⟨[], .attributes, rfl⟩
  | body =>
      obtain ⟨rfl, _⟩ := (seen_some _ _ _ _).mp found
      exact .inr ⟨[], .body, rfl⟩
  | comment =>
      obtain ⟨rfl, _⟩ := (seen_some _ _ _ _).mp found
      exact .inr ⟨[], .comment, rfl⟩

theorem pointer_ends_iff (said : String) (front : List String) (key : String)
    (position : Json.Position) :
    (∃ reason, EndsIn (said ++ Pointer.text (front ++ [key])) reason position) ↔
      ∃ start, EndsIn key start position := by
  rw [Json.Refusal.ends_in_suffix, Json.Refusal.ends_in_suffix]
  refine exists_congr fun ending => and_congr_right fun told => ?_
  obtain ⟨spaced, plain, slashless⟩ := position.ending_plain ending told
  rw [String.toList_append, Pointer.text_concat, ← List.append_assoc]
  exact Pointer.key_suffix_iff _ _ _ spaced plain slashless

theorem place_ends_iff (said : String) (node : Node) (p : Position) (keys : List String)
    (deferred : Bool) (found : node.at? p = some (keys, deferred)) (position : Json.Position) :
    (∃ reason, EndsIn (said ++ Pointer.text keys) reason position) ↔
      ∃ front name start, keys = front ++ ["attributes", name] ∧ EndsIn name start position := by
  constructor
  · rintro ⟨reason, ends⟩
    obtain ⟨e, rfl⟩ := element_at node p keys deferred found
    rcases keys_last p e keys deferred found with ⟨front, name, rfl⟩ | ⟨front, q, rfl⟩
    · rw [List.append_cons] at ends
      obtain ⟨start, inside⟩ := (pointer_ends_iff said _ name position).mp ⟨reason, ends⟩
      exact ⟨front, name, start, rfl, inside⟩
    · obtain ⟨start, inside⟩ := (pointer_ends_iff said front q.field position).mp ⟨reason, ends⟩
      exact absurd inside (Json.Refusal.ends_plain_not_in _ (field_plain q) start position)
  · rintro ⟨front, name, start, rfl, inside⟩
    rw [List.append_cons]
    exact (pointer_ends_iff said _ name position).mpr ⟨start, inside⟩

theorem decode_ok_iff (text : String) (node : Node) :
    decode text = .ok node ↔ fromText text = .ok node := by
  rw [decode_by_front, from_text_by_front]
  cases readFront text with
  | error m => rfl
  | ok front =>
      obtain ⟨value, rest⟩ := front
      dsimp only
      cases fromJson value <;> cases rest.all isBlank <;> simp

theorem from_json_rejects (value : Json) (e : Error) (rejected : fromJson value = .error e) :
    ∃ rejection : Rejection, e = rejection.error := by
  rw [fromJson] at rejected
  cases read : ofJson value with
  | ok node =>
      rw [read] at rejected
      cases rejected
  | error rejection =>
      rw [read] at rejected
      exact ⟨rejection, (Except.error.inj rejected).symm⟩

theorem rejected_front (text : String) (value : Json) (rest : List Char) (e : Error)
    (front : readFront text = .ok (value, rest)) (rejected : fromJson value = .error e) :
    decode text = .error (.refusedJson ⟨e.message, none⟩) := by
  obtain ⟨rejection, rfl⟩ := from_json_rejects value e rejected
  have plain := Json.Refusal.of_text_plain _
    (Json.Refusal.ends_plain_not_in _ (rejection_plain rejection))
  simp only [decode_by_front, front, rejected, plain]

theorem encode_ok_iff (format : Json → String) (node : Node) (written : String) :
    node.encode format = .ok written ↔
      ∃ value, node.toJson = .ok value ∧ written = format value := by
  rw [encode]
  cases node.toJson with
  | ok value => simp [eq_comm]
  | error e => simp

theorem decode_and_encode_agree (text : String) (format : Json → String) (node : Node) :
    (decode text = .ok node ↔ fromText text = .ok node) ∧
    (∀ value rest e, readFront text = .ok (value, rest) → fromJson value = .error e →
      (∃ path reason, e = .invalidNode path reason) ∧
      (∃ told, decode text = .error told ∧ told.message = e.message) ∧
      (fromText text = .error e ↔ ∀ c ∈ rest, isBlank c) ∧
      ((∃ c ∈ rest, ¬ isBlank c) →
        fromText text = .error (.malformedJson (trailing text rest)))) ∧
    (∀ written, node.encode format = .ok written ↔
      ∃ value, node.toJson = .ok value ∧ written = format value) ∧
    (∀ e, node.toJson = .error e → ∃ p keys told,
      node.DefersFirst p keys ∧ e = .deferredValue (Pointer.text keys) ∧
      node.encode format = .error told ∧ Retold e.message told.message ∧
      ∀ position, (∃ reason, EndsIn e.message reason position) ↔
        ∃ front name start, keys = front ++ ["attributes", name] ∧
          EndsIn name start position) := by
  refine ⟨decode_ok_iff text node, ?_, encode_ok_iff format node, ?_⟩
  · intro value rest e front rejected
    have direct : fromText text =
        if rest.all isBlank then .error e else .error (.malformedJson (trailing text rest)) := by
      simp only [from_text_by_front, front, rejected]
    obtain ⟨rejection, rfl⟩ := from_json_rejects value e rejected
    refine ⟨⟨_, _, rfl⟩, ⟨_, rejected_front text value rest _ front rejected, ?_⟩, ?_, ?_⟩
    · exact refused_message _
    · rw [direct, ← List.all_eq_true]
      cases rest.all isBlank with
      | true => simp
      | false => simp [Rejection.error]
    · rintro ⟨c, member, sharp⟩
      rw [direct, if_neg]
      exact fun ended => sharp (List.all_eq_true.mp ended c member)
  · intro e failed
    have refused : node.encode format = .error (.refusedJson (.ofText e.message)) := by
      rw [encode, failed]
    rcases written_or_pointed node with ⟨value, written, _⟩ | ⟨p, keys, pointed, first⟩
    · rw [written] at failed
      cases failed
    · rw [pointed] at failed
      cases failed
      refine ⟨p, keys, _, first, rfl, refused, ?_, fun position => ?_⟩
      · rw [refused_message]
        exact (Json.Refusal.retold_iff _ _).mpr rfl
      · rw [deferred_message node p keys first.1]
        exact place_ends_iff _ node p keys true first.1 position

-- The value of an attribute is deferred whose name ends in a position.
def placedCard : Node :=
  .element ⟨some (.literal "p"),
    some (.literal (Attributes.empty.set "x at line 0 column 5"
      (.deferred (.fixed (some "d") (.ok "v"))))),
    none, none⟩

theorem placed_card_pointed :
    placedCard.toJson = .error (.deferredValue "/attributes/x at line 0 column 5") := by
  have path : Pointer.text ["attributes", "x at line 0 column 5"] =
      "/attributes/x at line 0 column 5" := by decide
  rw [← path]
  rfl

theorem list_and_more_refused :
    (∃ told, decode "[] x" = .error told ∧
      told.message = "invalid template node at /: expected a string or an object, got an array") ∧
    (∃ m, fromText "[] x" = .error (.malformedJson m) ∧ m.flaw = .trailingCharacters) ∧
    ∃ told, placedCard.encode Json.compact = .error told ∧
      Retold "can't serialize the deferred value at /attributes/x at line 0 column 5"
        told.message := by
  obtain ⟨_, refused, _, deferred⟩ := decode_and_encode_agree "[] x" Json.compact placedCard
  have front : readFront "[] x" = .ok (.array [], [' ', 'x']) := rfl
  obtain ⟨_, ⟨told, first, text⟩, _, further⟩ := refused _ _ _ front rfl
  obtain ⟨_, _, other, _, _, unwritten, retold, _⟩ := deferred _ placed_card_pointed
  exact ⟨⟨told, first, text⟩, ⟨_, further ⟨'x', by decide, by decide⟩, rfl⟩,
    other, unwritten, retold⟩

theorem placed_card_misplaced :
    placedCard.toJson = .error (.deferredValue "/attributes/x at line 0 column 5") ∧
    ∃ told, placedCard.encode Json.compact = .error told ∧
      told.message = "can't serialize the deferred value at /attributes/x" ∧
      told.message ≠ (Error.deferredValue "/attributes/x at line 0 column 5").message := by
  have ends : EndsIn (Error.deferredValue "/attributes/x at line 0 column 5").message
      "can't serialize the deferred value at /attributes/x" ⟨0, 5⟩ := by
    refine ⟨" at line 0 column 5", ⟨"0", "5", ?_, ?_, by decide⟩, by decide⟩
    · exact ⟨by decide, List.forall_mem_singleton.mpr rfl, rfl, by decide⟩
    · exact ⟨by decide, List.forall_mem_singleton.mpr rfl, rfl, by decide⟩
  have told := Json.Refusal.ending_message _ _ _ ends
  rw [if_pos rfl] at told
  refine ⟨placed_card_pointed, _, rfl, ?_, ?_⟩
  · exact (refused_message _).trans told
  · rw [refused_message]
    exact fun same => absurd (told.symm.trans same) (by decide)

end Node

end HtmlTemplate
