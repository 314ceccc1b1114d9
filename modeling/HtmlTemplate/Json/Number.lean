import HtmlTemplate.Decimal.Shortest
import HtmlTemplate.Json.Basic

/-!
The text of a number. Doubles have the fewest digits that read back, with at least one digit after
the point; outside of `1e-5 ≤ |x| < 1e16` they are written with an exponent.
-/

set_option autoImplicit false

namespace HtmlTemplate.Number

open HtmlTemplate.Decimal

def zeros (n : Nat) : String :=
  String.ofList (List.replicate n '0')

/-- The least and the first exponent past the greatest that are written without an exponent. -/
def plainFrom : Int := -5
def plainBelow : Int := 16

def exponentText (e : Int) : String :=
  if e < 0 then "e-" ++ toString e.natAbs else "e+" ++ toString e.natAbs

def scaledText (d : Scaled) : String :=
  let digits := toString d.coefficient
  let point : Int := digits.length + d.exponent
  if plainFrom ≤ point - 1 ∧ point - 1 < plainBelow then
    if 0 ≤ d.exponent then digits ++ zeros d.exponent.toNat ++ ".0"
    else if 0 < point then
      String.ofList (digits.toList.take point.toNat) ++ "." ++
        String.ofList (digits.toList.drop point.toNat)
    else "0." ++ zeros (-point).toNat ++ digits
  else
    match digits.toList with
    | [] => ""
    | [one] => String.ofList [one] ++ exponentText (point - 1)
    | first :: more => String.ofList (first :: '.' :: more) ++ exponentText (point - 1)

def realText (x : Float) : String :=
  let magnitude := Binary.ofFloat x
  let sign := if x.toBits.toNat / Nat.pow 2 63 = 1 then "-" else ""
  if magnitude.mantissa = 0 then sign ++ "0.0" else sign ++ scaledText magnitude.shortest

def text : Number → String
  | .integer n => toString n
  | .real x => realText x

end HtmlTemplate.Number
