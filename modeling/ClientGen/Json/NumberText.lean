import ClientGen.Json.Value

/-! # Reading numbers

  The grammar of JSON numbers and the value of a number text. The digits are collected into a
  significand of at most 64 bits: digits that do not fit are dropped, and only their place counts.
  A number without point and exponent that fits in 64 bits is an integer; any other number is the
  significand scaled by a power of ten in double arithmetic. A number too great for a double is
  refused, one too small is zero. -/

namespace ClientGen.Number

def digitValue (c : Char) : Nat := c.toNat - '0'.toNat

/-- The parts of a number text. -/
structure Parts where
  negative : Bool
  whole : List Char
  fraction : Option (List Char)
  /-- The exponent, if there is one: whether it is negative, and its digits. -/
  exponent : Option (Bool × List Char)

/-! ## The grammar -/

/-- Reads an exponent after its letter, up to the end of the text. -/
def exponentPart (cs : List Char) : Option (Bool × List Char) :=
  let (negative, digits) := match cs with
    | '-' :: rest => (true, rest)
    | '+' :: rest => (false, rest)
    | rest => (false, rest)
  if digits.isEmpty || !digits.all Char.isDigit then none else some (negative, digits)

/-- Reads what follows the digits before and after the point. -/
def finishParts (negative : Bool) (whole : List Char) (fraction : Option (List Char))
    (rest : List Char) : Option Parts :=
  match rest with
  | [] => some ⟨negative, whole, fraction, none⟩
  | c :: rest =>
    if c = 'e' || c = 'E' then
      (exponentPart rest).map fun e => ⟨negative, whole, fraction, some e⟩
    else none

/-- Splits a number text into its parts; none if it is not a number. A zero is not followed by
    more digits, and a point stands between digits. -/
def parts? (cs : List Char) : Option Parts :=
  let (negative, cs) := match cs with
    | '-' :: rest => (true, rest)
    | rest => (false, rest)
  let whole := cs.takeWhile Char.isDigit
  let rest := cs.dropWhile Char.isDigit
  if whole.isEmpty || (1 < whole.length && whole.head? = some '0') then none
  else
    match rest with
    | '.' :: rest =>
      let fraction := rest.takeWhile Char.isDigit
      if fraction.isEmpty then none
      else finishParts negative whole (some fraction) (rest.dropWhile Char.isDigit)
    | rest => finishParts negative whole none rest

/-! ## The value -/

/-- Collects digits before the point: the significand, and how many digits were dropped. After the
    first digit that does not fit all others are dropped too. -/
def collectWhole (significand : Nat) : List Char → Nat × Nat
  | [] => (significand, 0)
  | c :: rest =>
    let next := significand * 10 + digitValue c
    if Nat.pow 2 64 ≤ next then (significand, rest.length + 1) else collectWhole next rest

/-- Collects digits after the point: the significand, and how many digits were taken. -/
def collectFraction (significand taken : Nat) : List Char → Nat × Nat
  | [] => (significand, taken)
  | c :: rest =>
    let next := significand * 10 + digitValue c
    if Nat.pow 2 64 ≤ next then (significand, taken) else collectFraction next (taken + 1) rest

/-- The power of ten `10 ^ k`, rounded to a double. -/
def powerOfTen (k : Nat) : Float := Float.ofScientific 1 false k

/-- Scales a double by a power of ten, in steps of at most `10 ^ 308`; none if the result is too
    great. The first argument bounds the number of steps. -/
def scaleBy : Nat → Float → Int → Option Float
  | 0, f, _ => some f
  | steps + 1, f, e =>
    if e.natAbs ≤ 308 then
      if 0 ≤ e then
        let g := f * powerOfTen e.natAbs
        if g.isInf then none else some g
      else some (f / powerOfTen e.natAbs)
    -- A zero stays zero at any scale.
    else if f == 0 then some f
    else if 0 ≤ e then none
    else scaleBy steps (f / powerOfTen 308) (e + 308)

def signed (negative : Bool) (f : Float) : Number :=
  .real (Decimal.Binary64.ofFloat (if negative then -f else f))

/-- The double of a significand and an exponent of ten; none if it is too great. -/
def ofScaled (negative : Bool) (significand : Nat) (exponent : Int) : Option Number :=
  (scaleBy (exponent.natAbs / 308 + 1) significand.toUInt64.toFloat exponent).map (signed negative)

/-- The greatest exponent that is computed with. -/
def exponentLimit : Int := Nat.pow 2 31 - 1

/-- The number of a significand and its exponent, to which a written exponent is added. -/
def ofExponent (negative : Bool) (significand : Nat) (exponent : Int) (written : Bool × List Char) :
    Option Number :=
  let n : Int := (written.2.foldl (fun n c => n * 10 + digitValue c) 0 : Nat)
  if exponentLimit < n then
    -- Such an exponent makes the number too great, or so small that it is zero.
    if significand ≠ 0 && !written.1 then none else some (signed negative 0)
  else
    let total := if written.1 then exponent - n else exponent + n
    ofScaled negative significand (max (-exponentLimit - 1) (min exponentLimit total))

/-- The number that the parts of a text stand for; none if its magnitude is too great. -/
def ofParts (p : Parts) : Option Number :=
  let (whole, dropped) := collectWhole 0 p.whole
  let (significand, taken) := match p.fraction with
    | some digits => collectFraction whole 0 digits
    | none => (whole, 0)
  let exponent : Int := (dropped : Int) - (taken : Int)
  match p.exponent with
  | some written => ofExponent p.negative significand exponent written
  | none =>
    if p.fraction.isSome || 0 < dropped then ofScaled p.negative significand exponent
    else if !p.negative then some (.integer significand)
    -- Minus zero and what is below all words of 64 bits are doubles.
    else if significand = 0 || Nat.pow 2 63 < significand then
      some (signed true significand.toUInt64.toFloat)
    else some (.integer (-(significand : Int)))

def read? (cs : List Char) : Option Number := (parts? cs).bind ofParts

end ClientGen.Number
