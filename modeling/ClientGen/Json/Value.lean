import ClientGen.Decimal.Notation
import ClientGen.OrderedMap

/-! # JSON values

  The values that documents are made of. Objects keep the order of their members. A number is an
  integer when it is written as one and fits in 64 bits, with or without a sign; every other number
  is a double. -/

namespace ClientGen

/-- A number of a document. -/
inductive Number where
  /-- An integer of at most 64 bits. -/
  | integer (value : Int)
  /-- Any other number. -/
  | real (value : Decimal.Binary64)
  deriving DecidableEq, Repr

inductive Json where
  | null
  | bool (value : Bool)
  | number (value : Number)
  | string (value : String)
  | array (items : List Json)
  | object (members : List (String × Json))

namespace Number

/-- Doubles are written positionally from `0.00001` to below `1e+16`; beyond that with an exponent
    that always has a sign. -/
def layout : Decimal.Layout := ⟨-5, 16, true⟩

def write : Number → String
  | .integer n => toString n
  | .real x => x.write layout

/-- The integers that a document can hold: signed or unsigned words of 64 bits. -/
def isWord (n : Int) : Bool := -(Nat.pow 2 63 : Int) ≤ n && n < Nat.pow 2 64

end Number

namespace Json

/-- The member of an object, if the value is an object that has it. -/
def member? (key : String) : Json → Option Json
  | .object members => OrderedMap.find? key members
  | _ => none

def text? : Json → Option String
  | .string s => some s
  | _ => none

end Json

end ClientGen
