/-! # Identifiers

  The names that generated sources may bind. Only ASCII letters are admitted, although the
  generated language has more, so that a name means the same in every tool on its way. -/

namespace ClientGen.Text

def isIdentifierStart (c : Char) : Bool := c.isAlpha || c = '_' || c = '$'

def isIdentifierPart (c : Char) : Bool := c.isAlphanum || c = '_' || c = '$'

def isIdentifier (s : String) : Bool :=
  match s.toList with
  | [] => false
  | c :: rest => isIdentifierStart c && rest.all isIdentifierPart

/-- The words that the generated language keeps for itself, also those that it only keeps in
    strict code. -/
def reservedWords : List String :=
  ["arguments", "await", "break", "case", "catch", "class", "const", "continue", "debugger",
    "default", "delete", "do", "else", "enum", "eval", "export", "extends", "false", "finally",
    "for", "function", "if", "implements", "import", "in", "instanceof", "interface", "let",
    "new", "null", "package", "private", "protected", "public", "return", "static", "super",
    "switch", "this", "throw", "true", "try", "typeof", "var", "void", "while", "with", "yield"]

/-- Whether a text may name an argument: an identifier that is not reserved. -/
def isBindable (s : String) : Bool := isIdentifier s && !reservedWords.contains s

end ClientGen.Text
