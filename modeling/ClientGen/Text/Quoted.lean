import ClientGen.Text.Hexadecimal
import ClientGen.Text.HiddenTable

/-! # Quoted display

  How a text found in a document is shown in a message: between double quotes, with everything a
  reader could not see spelled out by its code point. -/

namespace ClientGen.Text

/-- One character of a quoted display. -/
def displayChar (c : Char) : List Char :=
  if c = '\x00' then ['\\', '0']
  else if c = '\t' then ['\\', 't']
  else if c = '\n' then ['\\', 'n']
  else if c = '\r' then ['\\', 'r']
  else if c = '\\' then ['\\', '\\']
  else if c = '\x22' then ['\\', '\x22']
  else if memRanges hiddenRanges c then ['\\', 'u', '\x7b'] ++ hexDigits c.toNat ++ ['\x7d']
  else [c]

/-- A text as a message shows it. -/
def display (s : String) : String :=
  String.ofList (['\x22'] ++ s.toList.flatMap displayChar ++ ['\x22'])

end ClientGen.Text
