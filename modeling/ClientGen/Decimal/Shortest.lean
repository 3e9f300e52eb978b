import ClientGen.Decimal.Binary64

/-! # Shortest decimals

  The fewest decimal digits that read back as a given double. The reals that round to a double form
  an interval around it, which holds its ends exactly when the significand is even. For one digit,
  then two, and so on, the two neighbours of the double on the grid of such decimals are tested; the
  first grid with a neighbour in the interval wins, and of two such neighbours the nearer one.

  All of it is exact: with `q` for the scale, numbers are compared as integers after multiplication
  with a common denominator. -/

namespace ClientGen.Decimal

/-- A decimal `digits * 10 ^ exponent`. -/
structure Digits where
  digits : Nat
  exponent : Int
  deriving DecidableEq, Repr

/-- An interval of reals around a value, all four as multiples of one unit `1 / unit`. -/
structure Interval where
  value : Nat
  low : Nat
  high : Nat
  /-- The denominator. -/
  unit : Nat
  /-- Whether the ends belong to the interval. -/
  closed : Bool

/-- The reals that round to the absolute value of a double. Below a power of two the neighbouring
    doubles are twice as dense, so the lower end is nearer there. -/
def Interval.ofBinary64 (x : Binary64) : Interval :=
  let m := x.significand
  -- In quarters of the last place, so that the half-way points are integers.
  let lowGap := if x.fractionBits = 0 && 1 < x.exponentBits then 1 else 2
  let up := Nat.pow 2 x.scale.toNat
  { value := 4 * m * up, low := (4 * m - lowGap) * up, high := (4 * m + 2) * up,
    unit := 4 * Nat.pow 2 (-x.scale).toNat, closed := m % 2 == 0 }

def Interval.holds (i : Interval) (n : Nat) (e : Int) : Bool :=
  let left := i.low * Nat.pow 10 (-e).toNat
  let middle := n * Nat.pow 10 e.toNat * i.unit
  let right := i.high * Nat.pow 10 (-e).toNat
  if i.closed then left ≤ middle && middle ≤ right else left < middle && middle < right

/-- The value of the interval on the grid of multiples of `10 ^ e`: the neighbour below, and
    whether the value lies nearer to the neighbour above. -/
def Interval.floorAt (i : Interval) (e : Int) : Nat × Bool :=
  let num := i.value * Nat.pow 10 (-e).toNat
  let den := i.unit * Nat.pow 10 e.toNat
  -- Half-way between both neighbours the even one counts as nearer.
  (num / den, den < 2 * (num % den) || (den == 2 * (num % den) && num / den % 2 == 1))

/-- The neighbour on the grid of multiples of `10 ^ e` that lies in the interval, the nearer one
    if both do. -/
def Interval.onGrid (i : Interval) (e : Int) : Option Digits :=
  let (n, nearerAbove) := i.floorAt e
  let below := 0 < n && i.holds n e
  let above := i.holds (n + 1) e
  if above && (nearerAbove || !below) then some ⟨n + 1, e⟩
  else if below then some ⟨n, e⟩ else none

/-- The number of decimal digits of the integer part of the value, or minus the number of zeros
    that follow the point. -/
def Interval.magnitude (i : Interval) : Int :=
  let whole := i.value / i.unit
  if 0 < whole then (Nat.toDigits 10 whole).length
  else
    let zeros := ((List.range 400).find? fun k => i.unit ≤ i.value * Nat.pow 10 (k + 1)).getD 400
    0 - (zeros : Int)

/-- The shortest decimal of the interval, searched from one digit to seventeen. -/
def Interval.shortest (i : Interval) : Digits :=
  let m := i.magnitude
  ((List.range 17).findSome? fun (k : Nat) => i.onGrid (m - (k : Int) - 1)).getD ⟨0, 0⟩

/-- Moves trailing zeros from the digits to the exponent. -/
def Digits.strip : Nat → Digits → Digits
  | 0, d => d
  | fuel + 1, d =>
    if d.digits ≠ 0 && d.digits % 10 == 0 then strip fuel ⟨d.digits / 10, d.exponent + 1⟩ else d

/-- The fewest digits that read back as the absolute value of a finite double. -/
def shortest (x : Binary64) : Digits :=
  if x.significand = 0 then ⟨0, 0⟩ else ((Interval.ofBinary64 x).shortest).strip 20

end ClientGen.Decimal
