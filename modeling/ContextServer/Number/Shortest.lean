import ContextServer.Number.Double

/-!
# Shortest decimals

Every finite double has a *shortest* decimal: of the decimals nearer to it than
to any other double, one with the fewest digits, and of those the nearest, the
even one of two. A decimal on the border between two doubles counts for the one
whose significand is even.

The search (`Double.shortest`) goes through 1, 2, … 17 digits. For each it tests
the two points next to the double on the grid of decimals with that many digits,
by comparing natural numbers; 17 digits always tell doubles apart.

`Double.text` writes the digits the way JSON numbers are written here.
-/

namespace ContextServer

/-- The decimal `digits * 10 ^ exponent`. -/
structure Decimal where
  /-- The significant digits, as one natural number. -/
  digits : Nat
  /-- The exponent of ten. -/
  exponent : Int
deriving DecidableEq, Inhabited

namespace Decimal

/-- The decimal digits of `n`, most significant first. -/
def digitsOf (n : Nat) : List Char := (Nat.repr n).toList

/-- The same number with no zero at the end of its digits. -/
def trim (d : Decimal) : Decimal :=
  let zeros := ((digitsOf d.digits).reverse.takeWhile (· == '0')).length
  if d.digits = 0 then ⟨0, 0⟩ else ⟨d.digits / Nat.pow 10 zeros, d.exponent + zeros⟩

end Decimal

namespace Double

/-- The exponent of the leading decimal digit of a nonzero double. -/
def leading (x : Double) : Int :=
  (Decimal.digitsOf (x.units * Nat.pow 10 330 / Nat.pow 2 1074)).length - 331

/-- The decimals `c * 10 ^ k` that round to `x`, in quarters of a unit: those
    between the middles towards the two neighbours of `x`. Below a power of two
    the doubles lie twice as close. -/
def roundsTo (x : Double) (c : Nat) (k : Int) : Bool :=
  let point := c * Nat.pow 10 k.toNat * Nat.pow 2 1076
  let gap := Nat.pow 2 x.power
  let below := if x.significand = Nat.pow 2 52 ∧ 0 < x.power then gap else 2 * gap
  let low := (4 * x.units - below) * Nat.pow 10 (-k).toNat
  let high := (4 * x.units + 2 * gap) * Nat.pow 10 (-k).toNat
  if x.significand % 2 = 0 then decide (low ≤ point ∧ point ≤ high)
  else decide (low < point ∧ point < high)

/-- Of the two multiples of `10 ^ k` next to `x`, one that rounds to `x`. -/
def onGrid? (x : Double) (k : Int) : Option Decimal :=
  let value := x.units * Nat.pow 10 (-k).toNat
  let step := Nat.pow 10 k.toNat * Nat.pow 2 1074
  let c := value / step
  let nearer := Double.nearest value step
  if x.roundsTo c k && x.roundsTo (c + 1) k then some ⟨nearer, k⟩
  else if x.roundsTo c k then some ⟨c, k⟩
  else if x.roundsTo (c + 1) k then some ⟨c + 1, k⟩
  else none

/-- The shortest decimal that is read back as the absolute value of `x`. -/
def shortest (x : Double) : Decimal :=
  if x.isZero then ⟨0, 0⟩
  else
    let first := (List.range 17).findSome? fun n : Nat => x.onGrid? (x.leading - n)
    (first.getD ⟨0, 0⟩).trim

/-! ## Text -/

/-- How the digits of a double are laid out. -/
structure Layout where
  /-- The least exponent of the leading digit that is written positionally. -/
  least : Int
  /-- The greatest exponent of the leading digit that is written positionally. -/
  greatest : Int
  /-- What stands between the digits and a positive exponent. -/
  upward : List Char
  /-- What stands between the digits and a negative exponent. -/
  downward : List Char

/-- Exponents from -5 to 15 are written positionally, always with a fractional
    digit; others in scientific notation with their sign. -/
def layout : Layout := ⟨-5, 15, ['e', '+'], ['e', '-']⟩

/-- The text of an unsigned decimal in the given layout. -/
def Layout.write (l : Layout) (d : Decimal) : List Char :=
  let ds := Decimal.digitsOf d.digits
  let lead : Int := d.exponent + (ds.length - 1)
  let dot := '.'
  if l.least ≤ lead ∧ lead ≤ l.greatest then
    if 0 ≤ d.exponent then ds ++ List.replicate d.exponent.toNat '0' ++ [dot, '0']
    else if 0 ≤ lead then
      ds.take (lead.toNat + 1) ++ dot :: ds.drop (lead.toNat + 1)
    else '0' :: dot :: List.replicate (-lead - 1).toNat '0' ++ ds
  else
    let mantissa := match ds with
      | [] => []
      | [c] => [c]
      | c :: rest => c :: dot :: rest
    if 0 ≤ lead then mantissa ++ l.upward ++ Decimal.digitsOf lead.toNat
    else mantissa ++ l.downward ++ Decimal.digitsOf (-lead).toNat

/-- The text of a double: the shortest digits that read back, always with a
    point or an exponent. -/
def text (x : Double) : List Char :=
  let digits := layout.write x.shortest
  if x.negative then '-' :: digits else digits

end Double

end ContextServer
