import ClientGen.Decimal.Shortest

/-! # Decimal notation

  How the digits of a number are laid out: with a point among them, or with an exponent. -/

namespace ClientGen.Decimal

/-- The choices of a way to write numbers. With `p` digits before the point (zero or less when the
    point comes first), a number is written positionally for `fewest < p` and `p ≤ most`. -/
structure Layout where
  /-- The point may stand at most this far before the digits. -/
  fewest : Int
  /-- The point may stand at most this far after the first digit. -/
  most : Int
  /-- Whether an exponent that is not negative is written with its sign. -/
  plusSign : Bool

def decimalDigits (n : Nat) : List Char := Nat.toDigits 10 n

/-- A number without its sign. Positional numbers always have a digit on both sides of the point;
    with an exponent, a point is written only between digits. -/
def Digits.write (layout : Layout) (d : Digits) : List Char :=
  let ds := decimalDigits d.digits
  let point := (ds.length : Int) + d.exponent
  if d.digits = 0 then ['0', '.', '0']
  else if 0 ≤ d.exponent && point ≤ layout.most then
    ds ++ List.replicate d.exponent.toNat '0' ++ ['.', '0']
  else if 0 < point && point ≤ layout.most then
    ds.take point.toNat ++ ['.'] ++ ds.drop point.toNat
  else if layout.fewest < point && point ≤ 0 then
    ['0', '.'] ++ List.replicate (-point).toNat '0' ++ ds
  else
    let mantissa := match ds with
      | [] => []
      | [c] => [c]
      | c :: rest => c :: '.' :: rest
    let sign := if point ≤ 0 then ['-'] else if layout.plusSign then ['+'] else []
    mantissa ++ ['e'] ++ sign ++ decimalDigits (point - 1).natAbs

/-- A finite double in the shortest form that reads back. -/
def Binary64.write (layout : Layout) (x : Binary64) : String :=
  String.ofList ((if x.isNegative then ['-'] else []) ++ (shortest x).write layout)

end ClientGen.Decimal
