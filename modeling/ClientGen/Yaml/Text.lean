/-! # Characters of YAML texts

  The classes of characters that the format distinguishes, and the places of characters in a text.

  A text is read with its line breaks made uniform: the pair of carriage return and line feed, a
  lone carriage return and the next-line character all become line feeds. The two Unicode separators
  break lines too, but stay as they are. -/

namespace ClientGen.Yaml

/-- A place in a text. -/
structure Place where
  line : Nat := 0
  column : Nat := 0
  /-- The number of octets that these characters take in UTF-8. -/
  octet : Nat := 0
  deriving DecidableEq, Repr

/-! ## Classes -/

def isBlank (c : Char) : Bool := c = ' ' || c = '\t'

/-- Line breaks, once they are uniform. -/
def isBreak (c : Char) : Bool := c = '\n' || c = '\u2028' || c = '\u2029'

/-- Spaces, tabs and line breaks. -/
def isGap (c : Char) : Bool := isBlank c || isBreak c

/-- The characters of the names of anchors and tags. -/
def isNameChar (c : Char) : Bool := c.isAlphanum || c = '_' || c = '-'

/-- Whether a line ends here. -/
def atLineEnd : List Char → Bool
  | [] => true
  | c :: _ => isBreak c

def atWordEnd : List Char → Bool
  | [] => true
  | c :: _ => isGap c

/-- Whether the mark that starts a document stands here. -/
def atStartMark : List Char → Bool
  | '-' :: '-' :: '-' :: rest => atWordEnd rest
  | _ => false

def atEndMark : List Char → Bool
  | '.' :: '.' :: '.' :: rest => atWordEnd rest
  | _ => false

/-- Whether one of the marks of a document stands here, at the beginning of a line. -/
def atDocumentMark (p : Place) (cs : List Char) : Bool :=
  p.column = 0 && (atStartMark cs || atEndMark cs)

/-! ## Places -/

def Place.nextLine (p : Place) : Place := { line := p.line + 1 }

def Place.behind (p : Place) (c : Char) : Place :=
  if isBreak c then p.nextLine
  else { p with column := p.column + 1, octet := p.octet + c.utf8Size }

def Place.behindAll (p : Place) (cs : List Char) : Place := cs.foldl Place.behind p

/-! ## Whole texts -/

/-- Whether a text may hold a character: controls are refused, tabs and line breaks apart. -/
def isAllowed (c : Char) : Bool :=
  let n := c.toNat
  n = 0x9 || n = 0xa || n = 0xd || (0x20 ≤ n && n ≤ 0x7e) || n = 0x85 || (0xa0 ≤ n && n ≤ 0xfffd)
    || 0x10000 ≤ n

/-- A text with uniform line breaks. -/
def uniformBreaks : List Char → List Char
  | [] => []
  | '\r' :: '\n' :: rest => '\n' :: uniformBreaks rest
  | c :: rest => (if c = '\r' || c = '\u0085' then '\n' else c) :: uniformBreaks rest

def byteOrderMark : Char := '\ufeff'

end ClientGen.Yaml
