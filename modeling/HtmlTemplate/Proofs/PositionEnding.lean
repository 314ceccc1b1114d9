import HtmlTemplate.Json.Refusal
import Mathlib.Data.List.DropRight

set_option autoImplicit false

namespace HtmlTemplate

-- Digits that stand for a number of at most 64 bits; there may be zeros in front.
def Decimal.Denotes (digits : List Char) (n : Nat) : Prop :=
  digits ≠ [] ∧ (∀ c ∈ digits, c.isDigit) ∧ Nat.ofDigitChars 10 digits 0 = n ∧ n < Nat.pow 2 64

theorem Decimal.word_denotes (digits : List Char) (n : Nat) :
    word? digits = some n ↔ Denotes digits n := by
  have value : digits.foldl (fun n c => n * 10 + (c.toNat - 48)) 0 =
      Nat.ofDigitChars 10 digits 0 := by
    simp only [Nat.ofDigitChars, Nat.mul_comm]
    rfl
  rw [word?, value, Denotes, ← List.all_eq_true]
  by_cases empty : digits = []
  · simp [empty]
  · by_cases digital : digits.all Char.isDigit = true
    · simp only [List.isEmpty_eq_false_iff.mpr empty, digital, Bool.not_true, Bool.or_self,
        Bool.false_eq_true, if_false, Option.ite_none_right_eq_some, Option.some.injEq]
      constructor
      · rintro ⟨small, rfl⟩
        exact ⟨empty, trivial, rfl, small⟩
      · rintro ⟨_, _, rfl, small⟩
        exact ⟨small, rfl⟩
    · simp [digital]

namespace Json

def Position.Ending (position : Position) (ending : String) : Prop :=
  ∃ line column : String, Decimal.Denotes line.toList position.line ∧
    Decimal.Denotes column.toList position.column ∧
      ending = " at line " ++ line ++ " column " ++ column

theorem Position.ending_last (position : Position) (ending : String)
    (told : position.Ending ending) : ∃ c, ending.toList.getLast? = some c ∧ c.isDigit := by
  obtain ⟨line, column, _, ⟨inhabited, digital, _⟩, rfl⟩ := told
  refine ⟨column.toList.getLast inhabited, ?_, digital _ (List.getLast_mem inhabited)⟩
  rw [String.toList_append, List.getLast?_append, List.getLast?_eq_some_getLast inhabited,
    Option.some_or]

theorem Position.ending_plain (position : Position) (ending : String)
    (told : position.Ending ending) :
    (∃ rest, ending.toList = ' ' :: rest) ∧ '~' ∉ ending.toList ∧ '/' ∉ ending.toList := by
  obtain ⟨line, column, ⟨_, first, _⟩, ⟨_, second, _⟩, rfl⟩ := told
  have outside (c : Char) (mark : c.isDigit = false) : c ∉ line.toList ∧ c ∉ column.toList := by
    refine ⟨fun member => ?_, fun member => ?_⟩
    · exact absurd (first c member) (by simp [mark])
    · exact absurd (second c member) (by simp [mark])
  refine ⟨⟨_, by simp only [String.toList_append]; rfl⟩, ?_, ?_⟩
  · simp [outside '~' rfl]
  · simp [outside '/' rfl]

namespace Refusal

def EndsIn (text reason : String) (position : Position) : Prop :=
  ∃ ending, position.Ending ending ∧ text = reason ++ ending

-- How a text is told: the position at its end may fall away, or the zeros in it.
def Retold (text told : String) : Prop :=
  (∃ reason position, EndsIn text reason position ∧
    told = if position.line = 0 then reason else reason ++ position.text) ∨
  (∀ reason position, ¬ EndsIn text reason position) ∧ told = text

theorem drop_end_iff (text ending front : List Char) :
    dropEnd? text ending = some front ↔ text = front ++ ending := by
  rw [dropEnd?]
  constructor
  · intro dropped
    rw [Option.ite_none_right_eq_some, List.isSuffixOf_iff_suffix,
      List.suffix_iff_eq_append] at dropped
    obtain ⟨whole, kept⟩ := dropped
    rw [← Option.some.inj kept, whole]
  · rintro rfl
    simp

-- All digits at the end are taken, so none is left in front of them.
theorem drop_number_iff (text front : List Char) (n : Nat) :
    dropNumber? text = some (front, n) ↔
      ∃ digits, Decimal.Denotes digits n ∧ text = front ++ digits ∧
        front.rtakeWhile Char.isDigit = [] := by
  have taken : (text.reverse.takeWhile Char.isDigit).reverse = text.rtakeWhile Char.isDigit := rfl
  simp only [dropNumber?, Option.pure_def, Option.bind_eq_bind, Option.bind_eq_some_iff,
    Option.some.injEq, Prod.mk.injEq, Decimal.word_denotes, taken]
  constructor
  · rintro ⟨m, number, kept, rfl⟩
    have split : text.rdropWhile Char.isDigit ++ text.rtakeWhile Char.isDigit = text :=
      List.rdropWhile_append_rtakeWhile
    have whole : front ++ text.rtakeWhile Char.isDigit = text := by
      rw [← kept]
      exact List.suffix_iff_eq_append.mp ⟨_, split⟩
    have same := List.append_cancel_right (whole.trans split.symm)
    refine ⟨_, number, whole.symm, ?_⟩
    rw [same, List.rtakeWhile_eq_nil_iff]
    exact List.rdropWhile_last_not Char.isDigit text
  · rintro ⟨digits, number, rfl, ends⟩
    have trailing : (front ++ digits).rtakeWhile Char.isDigit = digits := by
      have digital : ∀ c ∈ digits.reverse, c.isDigit := fun c member =>
        number.2.1 c (List.mem_reverse.mp member)
      rw [List.rtakeWhile, List.reverse_append, List.takeWhile_append_of_pos digital,
        List.reverse_append, List.reverse_reverse]
      exact congrArg (· ++ digits) ends
    rw [trailing]
    exact ⟨n, number, by simp, rfl⟩

theorem drop_position_iff (text reason : String) (position : Position) :
    dropPosition? text.toList = some (reason.toList, position) ↔ EndsIn text reason position := by
  simp only [dropPosition?, Option.pure_def, Option.bind_eq_bind, Option.bind_eq_some_iff,
    Prod.exists, drop_number_iff, drop_end_iff, Option.some.injEq, Prod.mk.injEq]
  constructor
  · rintro ⟨_, _, ⟨column, second, whole, _⟩, _, rfl, _, _, ⟨line, first, rfl, _⟩, _, rfl, rfl, rfl⟩
    refine ⟨_, ⟨String.ofList line, String.ofList column, ?_, ?_, rfl⟩, ?_⟩
    · rwa [String.toList_ofList]
    · rwa [String.toList_ofList]
    · rw [← String.toList_inj, whole]
      simp
  · rintro ⟨_, ⟨line, column, first, second, rfl⟩, rfl⟩
    -- Both words end in a space, at which taking digits stops.
    have stops (front : List Char) (word : String) (spaced : word.toList.reverse.head? = some ' ') :
        (front ++ word.toList).rtakeWhile Char.isDigit = [] := by
      obtain ⟨rest, last⟩ := List.head?_eq_some_iff.mp spaced
      rw [List.rtakeWhile, List.reverse_append, last]
      rfl
    refine ⟨_, position.column, ⟨column.toList, second, ?_, stops _ _ rfl⟩, _, rfl, _,
      position.line, ⟨line.toList, first, rfl, stops _ _ rfl⟩, _, rfl, rfl, rfl⟩
    simp

theorem of_text_ending (text reason : String) (position : Position)
    (ends : EndsIn text reason position) :
    ofText text = ⟨reason, if position.line = 0 then none else some position⟩ := by
  rw [ofText, (drop_position_iff text reason position).mpr ends]
  simp only [String.ofList_toList]

theorem of_text_plain (text : String) (plain : ∀ reason position, ¬ EndsIn text reason position) :
    ofText text = ⟨text, none⟩ := by
  rw [ofText]
  cases found : dropPosition? text.toList with
  | none => rfl
  | some rest =>
      obtain ⟨reason, position⟩ := rest
      rw [← String.toList_ofList (l := reason)] at found
      exact absurd ((drop_position_iff _ _ _).mp found) (plain _ _)

theorem ending_message (text reason : String) (position : Position)
    (ends : EndsIn text reason position) :
    (ofText text).message = if position.line = 0 then reason else reason ++ position.text := by
  rw [of_text_ending text reason position ends, message]
  by_cases nowhere : position.line = 0
  · simp [nowhere]
  · simp [nowhere]

theorem retold_iff (text told : String) : Retold text told ↔ told = (ofText text).message := by
  constructor
  · rintro (⟨reason, position, ends, rfl⟩ | ⟨plain, rfl⟩)
    · rw [ending_message text reason position ends]
    · rw [of_text_plain told plain]
      rfl
  · rintro rfl
    by_cases ending : ∃ reason position, EndsIn text reason position
    · obtain ⟨reason, position, ends⟩ := ending
      exact .inl ⟨reason, position, ends, ending_message text reason position ends⟩
    · simp only [not_exists] at ending
      refine .inr ⟨ending, ?_⟩
      rw [of_text_plain text ending]
      rfl

def EndsPlain (text : String) : Prop :=
  ∃ c, text.toList.getLast? = some c ∧ c.isDigit = false

theorem ends_plain_behind (front text : String) (plain : EndsPlain text) :
    EndsPlain (front ++ text) := by
  obtain ⟨c, last, sharp⟩ := plain
  refine ⟨c, ?_, sharp⟩
  rw [String.toList_append, List.getLast?_append, last, Option.some_or]

theorem ends_plain_not_in (text : String) (plain : EndsPlain text) (reason : String)
    (position : Position) : ¬ EndsIn text reason position := by
  rintro ⟨ending, told, rfl⟩
  obtain ⟨c, last, sharp⟩ := plain
  obtain ⟨digit, behind, digital⟩ := position.ending_last ending told
  rw [String.toList_append, List.getLast?_append, behind, Option.some_or] at last
  rw [Option.some.inj last, sharp] at digital
  cases digital

theorem ends_in_suffix (text : String) (position : Position) :
    (∃ reason, EndsIn text reason position) ↔
      ∃ ending, position.Ending ending ∧ ending.toList <:+ text.toList := by
  constructor
  · rintro ⟨reason, ending, told, rfl⟩
    exact ⟨ending, told, reason.toList, String.toList_append.symm⟩
  · rintro ⟨ending, told, front, whole⟩
    refine ⟨String.ofList front, ending, told, ?_⟩
    rw [← String.toList_inj, String.toList_append, String.toList_ofList, whole]

end Refusal

end Json

end HtmlTemplate
