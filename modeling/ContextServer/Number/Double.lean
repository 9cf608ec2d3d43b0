/-!
# Binary doubles

A finite number of the binary64 format, as a sign and a magnitude. The magnitude
is the bit pattern without its sign bit: the exponent field counts steps of
`2 ^ 52`, the fraction the rest. Every finite double is a whole number of
*units*, a unit being the least positive double, `2 ^ (-1074)`; so arithmetic on
doubles is arithmetic on natural numbers followed by one rounding
(`Double.ofUnits?`), to the nearest double and to the even one of two.

A decimal is read with one rounding of its significand and one scaling by a
rounded power of ten (`Double.ofDecimal?`), so a decimal of many digits may be
read as a neighbour of the nearest double.
-/

namespace ContextServer

/-- A finite binary64 number; `-0` and `0` are two of them. -/
structure Double where
  /-- The sign bit. -/
  negative : Bool
  /-- The bit pattern without the sign bit. -/
  magnitude : Nat
  /-- The exponent field is not that of the infinities. -/
  finite : magnitude < 2047 * Nat.pow 2 52
deriving DecidableEq

namespace Double

/-- Zero with the given sign. -/
def zero (negative : Bool) : Double := ⟨negative, 0, by decide⟩

instance : Inhabited Double := ⟨zero false⟩

/-- The number is `0` or `-0`. -/
def isZero (x : Double) : Bool := x.magnitude == 0

/-- The exponent of two in `x = significand * 2 ^ power` units. -/
def power (x : Double) : Nat := x.magnitude / Nat.pow 2 52 - 1

/-- The whole number that `2 ^ power` units are multiplied by; below `2 ^ 53`. -/
def significand (x : Double) : Nat :=
  if x.magnitude < Nat.pow 2 52 then x.magnitude else Nat.pow 2 52 + x.magnitude % Nat.pow 2 52

/-- The absolute value in units of `2 ^ (-1074)`. -/
def units (x : Double) : Nat := x.significand * Nat.pow 2 x.power

/-- The whole number nearest to `n / d`, the even one of two. -/
def nearest (n d : Nat) : Nat :=
  if 2 * (n % d) < d then n / d
  else if d < 2 * (n % d) then n / d + 1
  else n / d + n / d % 2

/-- The double nearest to `n / d` units; nothing if it would be infinite.

    The quotient is rounded to a multiple of `2 ^ p`, with `p` such that 53
    bits are left, or to a whole number of units if it has fewer. Rounding up
    to the next power of two carries into the exponent field. -/
def ofUnits? (negative : Bool) (n d : Nat) : Option Double :=
  let p := (n / d).log2 - 52
  let magnitude := p * Nat.pow 2 52 + nearest n (d * Nat.pow 2 p)
  if h : magnitude < 2047 * Nat.pow 2 52 then some ⟨negative, magnitude, h⟩ else none

/-- The double nearest to the natural number `n`. -/
def ofNat? (negative : Bool) (n : Nat) : Option Double :=
  ofUnits? negative (n * Nat.pow 2 1074) 1

/-- The double nearest to the integer `n`. -/
def ofInt? (n : Int) : Option Double := ofNat? (decide (n < 0)) n.natAbs

/-- The rounded product, with the sign of `x`; nothing if it overflows. -/
def scaleUp? (x y : Double) : Option Double :=
  ofUnits? x.negative (x.units * y.units) (Nat.pow 2 1074)

/-- The rounded quotient, with the sign of `x`. -/
def scaleDown? (x y : Double) : Option Double :=
  ofUnits? x.negative (x.units * Nat.pow 2 1074) y.units

/-- The double nearest to `10 ^ k`, for `k` up to 308. -/
def powerOfTen? (k : Nat) : Option Double := ofNat? false (Nat.pow 10 k)

/-- Division by `10 ^ 308`, `n` times over, or until nothing is left. -/
def shrink? : Nat → Double → Option Double
  | 0, x => some x
  | n + 1, x =>
    if x.isZero then some x
    else do shrink? n (← x.scaleDown? (← powerOfTen? 308))

/-- The decimal `n * 10 ^ e`, for an `n` below `2 ^ 64`; nothing if it overflows.

    The significand is rounded first. A power of ten beyond `10 ^ 308` makes it
    overflow, whatever the significand; one beyond `10 ^ (-308)` is divided by
    in several steps. -/
def ofDecimal? (negative : Bool) (n : Nat) (e : Int) : Option Double := do
  let x ← ofNat? negative n
  if x.isZero then some x
  else if 308 < e then none
  else if 0 ≤ e then x.scaleUp? (← powerOfTen? e.toNat)
  else
    let k := (-e).toNat
    let steps := (k - 1) / 308
    (← shrink? steps x).scaleDown? (← powerOfTen? (k - 308 * steps))

example : ofDecimal? false 15 (-1) =
    some ⟨false, 1023 * Nat.pow 2 52 + Nat.pow 2 51, by decide⟩ := by
  decide +kernel

example : ofDecimal? false 1 400 = none := by decide +kernel

example : ofDecimal? false 1 (-400) = some (zero false) := by decide +kernel

end Double

end ContextServer
