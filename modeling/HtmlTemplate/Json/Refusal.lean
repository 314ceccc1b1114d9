import HtmlTemplate.Decimal.Word
import HtmlTemplate.Json.Reader

/-!
Why a value is refused that is sound JSON, or has no JSON form. A reason whose text ends in a
position is told at that position.
-/

set_option autoImplicit false

namespace HtmlTemplate.Json

structure Refusal where
  reason : String
  position : Option Position

namespace Refusal

def dropEnd? (text ending : List Char) : Option (List Char) :=
  if ending.isSuffixOf text then some (text.take (text.length - ending.length)) else none

def dropNumber? (text : List Char) : Option (List Char × Nat) := do
  let digits := (text.reverse.takeWhile Char.isDigit).reverse
  let n ← Decimal.word? digits
  return (text.take (text.length - digits.length), n)

def dropPosition? (text : List Char) : Option (List Char × Position) := do
  let (text, column) ← dropNumber? text
  let text ← dropEnd? text " column ".toList
  let (text, line) ← dropNumber? text
  let text ← dropEnd? text " at line ".toList
  return (text, ⟨line, column⟩)

/-- The refusal told by a text. Lines count from 1: a position in line 0 is none. -/
def ofText (text : String) : Refusal :=
  match dropPosition? text.toList with
  | none => ⟨text, none⟩
  | some (reason, position) =>
    ⟨String.ofList reason, if position.line = 0 then none else some position⟩

def message (r : Refusal) : String :=
  match r.position with
  | none => r.reason
  | some position => r.reason ++ position.text

end Refusal

end HtmlTemplate.Json
