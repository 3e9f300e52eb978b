/-! # Ranges of code points

  Classes of characters are kept as lists of closed ranges of code points. -/

namespace ClientGen.Text

/-- The code points from `first` to `last`, both included. -/
structure CodeRange where
  first : Nat
  last : Nat
  deriving DecidableEq, Repr

def memRanges (ranges : List CodeRange) (c : Char) : Bool :=
  ranges.any fun r => r.first ≤ c.toNat && c.toNat ≤ r.last

end ClientGen.Text
