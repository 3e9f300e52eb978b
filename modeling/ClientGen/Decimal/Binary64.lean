/-! # Binary floating point numbers

  A number of a document that is not a small integer is kept as a double, by its 64 bits. Two such
  numbers are equal here when their bits are, so the two zeros differ. -/

namespace ClientGen.Decimal

/-- A double, by its bits: sign, eleven bits of exponent, 52 bits of fraction. -/
structure Binary64 where
  bits : UInt64
  deriving DecidableEq, Repr

namespace Binary64

/-- The double that arithmetic is done with. -/
def toFloat (x : Binary64) : Float := Float.ofBits x.bits

/-- A result of arithmetic, as its bits. -/
def ofFloat (f : Float) : Binary64 := ⟨f.toBits⟩

def isNegative (x : Binary64) : Bool := x.bits >>> 63 == 1

def exponentBits (x : Binary64) : Nat := (x.bits.toNat / Nat.pow 2 52) % Nat.pow 2 11

def fractionBits (x : Binary64) : Nat := x.bits.toNat % Nat.pow 2 52

/-- The integer `m` of the decomposition of the absolute value as `m * 2 ^ scale`. -/
def significand (x : Binary64) : Nat :=
  if x.exponentBits = 0 then x.fractionBits else x.fractionBits + Nat.pow 2 52

/-- The power of two of the decomposition of the absolute value as `significand * 2 ^ scale`. -/
def scale (x : Binary64) : Int :=
  if x.exponentBits = 0 then -1074 else (x.exponentBits : Int) - 1075

end Binary64

end ClientGen.Decimal
