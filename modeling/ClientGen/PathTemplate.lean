import ClientGen.Names

/-! # Path templates

  A path such as `/pets/{id}` is cut at its braces into literal text and placeholders. Every
  opening brace starts a placeholder and every brace ends what came before it; braces that are
  never closed, nested or stray are cut by the same rule, and none is an error. -/

namespace ClientGen

/-- A piece of a path template. -/
inductive Segment where
  | literal (text : String)
  /-- The name between two braces, for which an argument is filled in. -/
  | placeholder (name : String)
  deriving DecidableEq, Repr

def Segment.text : Segment → String
  | .literal text => text
  | .placeholder name => name

namespace PathTemplate

def openBrace : Char := '\x7b'

def closeBrace : Char := '\x7d'

def isBrace (c : Char) : Bool := c = openBrace || c = closeBrace

/-- The text before the first brace, then each brace with the text that follows it. -/
def cutAtBraces : List Char → List Char × List (Char × List Char)
  | [] => ([], [])
  | c :: rest =>
    let (text, cuts) := cutAtBraces rest
    if isBrace c then ([], (c, text) :: cuts) else (c :: text, cuts)

/-- The segment made of literal text; empty text makes none. -/
def literalSegment (text : List Char) : List Segment :=
  if text.isEmpty then [] else [.literal (String.ofList text)]

/-- The segment made of the text after a brace. An opening brace makes a placeholder even of the
    empty text. -/
def segmentAfter (cut : Char × List Char) : List Segment :=
  if cut.1 = openBrace then [.placeholder (String.ofList cut.2)] else literalSegment cut.2

/-- The segments of a path template. -/
def segments (path : String) : List Segment :=
  let (text, cuts) := cutAtBraces path.toList
  literalSegment text ++ cuts.flatMap segmentAfter

/-- A segment as it is written in a path: a placeholder stands between braces. -/
def writtenSegment : Segment → List Char
  | .literal text => text.toList
  | .placeholder name => [openBrace] ++ name.toList ++ [closeBrace]

/-- The path that segments are written as. -/
def write (segments : List Segment) : String := String.ofList (segments.flatMap writtenSegment)

def argumentName? : Segment → Option String
  | .literal _ => none
  | .placeholder name => some name

/-- The placeholder names of a path without repetitions, ordered by first occurrence. -/
def argumentNames (path : String) : List String :=
  Names.firstSeen ((segments path).filterMap argumentName?)

end PathTemplate

end ClientGen
