set_option autoImplicit false

namespace HtmlTemplate.Decimal

/-- The positive number `mantissa * 2 ^ exponent`. `narrow` marks the least mantissa of a binade,
below which the doubles lie twice as dense. -/
structure Binary where
  mantissa : Nat
  exponent : Int
  narrow : Bool

structure Scaled where
  coefficient : Nat
  exponent : Int

def Binary.ofFloat (x : Float) : Binary :=
  let bits : Nat := x.toBits.toNat
  let biased : Nat := bits / Nat.pow 2 52 % Nat.pow 2 11
  let fraction : Nat := bits % Nat.pow 2 52
  if biased = 0 then ⟨fraction, -1074, false⟩
  else ⟨Nat.pow 2 52 + fraction, (biased : Int) - 1075, fraction = 0 && biased > 1⟩

def compareScaled (a : Nat) (p : Int) (c : Nat) (k : Int) : Ordering :=
  compare (a * Nat.pow 2 p.toNat * Nat.pow 10 (-k).toNat)
    (c * Nat.pow 10 k.toNat * Nat.pow 2 (-p).toNat)

/-- Whether `c * 10 ^ k` rounds to `x`; a bound itself does so when the mantissa is even. -/
def Binary.holds (x : Binary) (c : Nat) (k : Int) : Bool :=
  let low := 4 * x.mantissa - (if x.narrow then 1 else 2)
  let high := 4 * x.mantissa + 2
  let inside (o : Ordering) (bound : Ordering) : Bool :=
    o = bound || (o = .eq && x.mantissa % 2 = 0)
  inside (compareScaled low (x.exponent - 2) c k) .lt &&
    inside (compareScaled high (x.exponent - 2) c k) .gt

def Binary.floor (x : Binary) (k : Int) : Nat :=
  (x.mantissa * Nat.pow 2 x.exponent.toNat * Nat.pow 10 (-k).toNat) /
    (Nat.pow 10 k.toNat * Nat.pow 2 (-x.exponent).toNat)

/-- The nearer of the two neighbours of `x` on the grid of `10 ^ k` that round to `x`, of two
equally near ones the even one. -/
def Binary.onGrid? (x : Binary) (k : Int) : Option Nat :=
  let below := x.floor k
  match x.holds below k, x.holds (below + 1) k with
  | false, false => none
  | true, false => some below
  | false, true => some (below + 1)
  | true, true =>
    match compareScaled (2 * x.mantissa) x.exponent (2 * below + 1) k with
    | .lt => some below
    | .gt => some (below + 1)
    | .eq => some (if below % 2 = 0 then below else below + 1)

def Binary.search (x : Binary) (k : Int) : Nat → Scaled
  | 0 => ⟨x.floor k, k⟩
  | steps + 1 =>
    match x.onGrid? k with
    | some c => ⟨c, k⟩
    | none => x.search (k - 1) steps

/-- The search starts at a power of ten above `x`; seventeen digits always suffice. -/
def Binary.shortest (x : Binary) : Scaled :=
  x.search (((x.mantissa.log2 : Int) + x.exponent + 1) * 30103 / 100000 + 1) 20

end HtmlTemplate.Decimal
