import ClientGen.Text.Bracketed
import ClientGen.Text.Identifier

/-! # Texts in generated sources

  Quoted texts, the keys of objects and the sections of files. -/

namespace ClientGen.Layout

def quoteChar (c : Char) : List Char :=
  if c = '\\' then ['\\', '\\']
  else if c = '\x27' then ['\\', '\x27']
  else if c = '\n' then ['\\', 'n']
  else if c = '\r' then ['\\', 'r']
  else if c = '\t' then ['\\', 't']
  else [c]

/-- A text between single quotes. -/
def quote (s : String) : String :=
  String.ofList (['\x27'] ++ s.toList.flatMap quoteChar ++ ['\x27'])

/-- A key of an object: bare if it is an identifier, quoted otherwise. -/
def keyText (name : String) : String :=
  if Text.isIdentifier name then name else quote name

/-- The sections of a file: separated by an empty line, with a line break at the end. -/
def file (sections : List String) : String := "\n\n".intercalate sections ++ "\n"

end ClientGen.Layout
