set_option autoImplicit false

namespace HtmlTemplate.Decimal

/-- Leading zeros count for nothing; without a digit there is no number. -/
def word? (digits : List Char) : Option Nat :=
  if digits.isEmpty || !digits.all Char.isDigit then none
  else
    let n := digits.foldl (fun n c => n * 10 + (c.toNat - 48)) 0
    if n < Nat.pow 2 64 then some n else none

end HtmlTemplate.Decimal
