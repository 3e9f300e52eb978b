import ClientGen.Json.Value
import ClientGen.Text.Hexadecimal
import ClientGen.Yaml.Node

/-! # Values of scalars

  What a scalar stands for. Quoted scalars and blocks are texts. A plain scalar is nothing, a truth
  value or a number if it is spelled like one, and a text otherwise. A tag may demand one of these
  kinds. Integers may be written with the bases sixteen, eight and two; a decimal number of several
  digits with a zero in front is a text. -/

namespace ClientGen.Yaml.Scalar

/-! ## Spellings -/

/-- Whether a text spells nothing. -/
def isNull (s : String) : Bool := s = "null" || s = "Null" || s = "NULL" || s = "~"

def bool? (s : String) : Option Bool :=
  if s = "true" || s = "True" || s = "TRUE" then some true
  else if s = "false" || s = "False" || s = "FALSE" then some false
  else none

/-- The number that digits of a base spell. -/
def digits? (base : Nat) (cs : List Char) : Option Nat :=
  if cs.isEmpty then none
  else cs.foldlM (fun n c => match Text.hexValue? c with
    | some d => if d < base then some (n * base + d) else none
    | none => none) 0

/-- Whether a text is made of digits of which the first is a useless zero, with or without a
    sign. -/
def hasUselessZero (cs : List Char) : Bool :=
  let digits := match cs with
    | '-' :: rest => rest
    | '+' :: rest => rest
    | rest => rest
  1 < digits.length && digits.head? = some '0' && digits.all Char.isDigit

/-- The number behind the mark of a base, if there is a mark. -/
def based? : List Char → Option Nat
  | '0' :: 'x' :: rest => digits? 16 rest
  | '0' :: 'o' :: rest => digits? 8 rest
  | '0' :: 'b' :: rest => digits? 2 rest
  | _ => none

def integer? (cs : List Char) : Option Int :=
  let (negative, digits) := match cs with
    | '-' :: rest => (true, rest)
    | '+' :: rest => (false, rest)
    | rest => (false, rest)
  let size := match based? digits with
    | some n => some n
    | none => if hasUselessZero cs then none else digits? 10 digits
  size.map fun n => if negative then -(n : Int) else n

/-- The value of an exponent of ten, if it is one: a sign and digits. -/
def exponent? (cs : List Char) : Option Int :=
  match cs with
  | '-' :: rest => (digits? 10 rest).map fun n => -(n : Int)
  | '+' :: rest => (digits? 10 rest).map fun n => (n : Int)
  | rest => (digits? 10 rest).map fun n => (n : Int)

/-- The double nearest to `significand * 10 ^ exponent`. Exponents beyond all doubles are cut off
    before any power is computed. -/
def nearest (significand : Nat) (exponent : Int) : Float :=
  let magnitude := exponent + (Nat.toDigits 10 significand).length
  if significand = 0 || magnitude < -400 then 0
  else if 400 < magnitude then Float.ofScientific 1 false 400
  else Float.ofScientific significand (exponent < 0) exponent.natAbs

/-- The double that a decimal number without a sign spells: digits on at least one side of the
    point, and an exponent if there is one. -/
def decimal? (cs : List Char) : Option Float := do
  let whole := cs.takeWhile Char.isDigit
  let (fraction, rest) := match cs.dropWhile Char.isDigit with
    | '.' :: rest => (rest.takeWhile Char.isDigit, rest.dropWhile Char.isDigit)
    | rest => ([], rest)
  let significand ← digits? 10 (whole ++ fraction)
  let exponent ← match rest with
    | [] => some 0
    | c :: rest => if c = 'e' || c = 'E' then exponent? rest else none
  return nearest significand (exponent - fraction.length)

/-- A double without a sign, as a finite number spells it. -/
def finite? (cs : List Char) : Option Float :=
  (decimal? cs).bind fun f => if f.isInf then none else some f

/-- The value of a double: there is no number for the infinite ones. -/
def ofFloat (f : Float) : Json :=
  if f.isFinite then .number (.real (Decimal.Binary64.ofFloat f)) else .null

/-- Whether a text spells an infinite number or the number that is none. -/
def isSpecial (s : String) : Bool :=
  [".inf", ".Inf", ".INF", "+.inf", "+.Inf", "+.INF", "-.inf", "-.Inf", "-.INF", ".nan", ".NaN",
    ".NAN"].contains s

/-- The value of a floating point number that a text spells. -/
def real? (s : String) : Option Json :=
  if isSpecial s then some .null
  else
    match s.toList with
    | '-' :: rest => (finite? rest).map fun f => ofFloat (-f)
    | '+' :: rest => (finite? rest).map ofFloat
    | rest => (finite? rest).map ofFloat

/-! ## Values -/

/-- Whether an integer is too great for a document, but not too great to be read as one. -/
def isHuge (n : Int) : Bool := -(Nat.pow 2 127 : Int) ≤ n && n < Nat.pow 2 128

/-- The value of a floating point number or text. -/
def realOrText (s : String) : Json :=
  if hasUselessZero s.toList then .string s else (real? s).getD (.string s)

/-- The value of a plain scalar without a tag; none for integers that no document can hold. -/
def plainValue? (s : String) : Option Json :=
  if s = "" || isNull s then some .null
  else
    match bool? s, integer? s.toList with
    | some b, _ => some (.bool b)
    | none, some n =>
      if Number.isWord n then some (.number (.integer n))
      else if isHuge n then none
      else some (realOrText s)
    | none, none => some (realOrText s)

/-- The value of a scalar whose tag demands an integer. -/
def integerValue? (s : String) : Option Json :=
  (integer? s.toList).bind fun n =>
    if Number.isWord n then some (.number (.integer n)) else none

/-- The tags of the standard scheme. -/
def standardTag (name : String) : List Char := "tag:yaml.org,2002:".toList ++ name.toList

/-- Whether octets, each held as a character, are a text in UTF-8. -/
def isUtf8 (octets : List Char) : Bool :=
  (String.fromUTF8? ⟨(octets.map fun c => c.toNat.toUInt8).toArray⟩).isSome

/-- Whether a tag is one that only the program that wrote it knows: it begins with an exclamation
    mark, and a text follows. -/
def isLocalTag (tag : List Char) : Bool :=
  match tag with
  | '!' :: name => isUtf8 name
  | _ => false

/-- The value of a scalar without a tag that counts. -/
def untagged? (s : String) (style : ScalarStyle) : Option Json :=
  match style with
  | .plain => plainValue? s
  | .marked => some (.string s)

/-- The value of a scalar; none if it is not what its tag demands, or if its tag is a local one. A
    tag that would be local if it were a text counts for nothing. -/
def value? (tag : Option (List Char)) (text : List Char) (style : ScalarStyle) : Option Json :=
  let s := String.ofList text
  match tag with
  | none => untagged? s style
  | some t =>
    if isLocalTag t then none
    else if t.head? = some '!' then untagged? s style
    else if t = standardTag "bool" then (bool? s).map .bool
    else if t = standardTag "int" then integerValue? s
    else if t = standardTag "float" then real? s
    else if t = standardTag "null" then (if isNull s then some .null else none)
    else some (.string s)

end ClientGen.Yaml.Scalar
