import ClientGen.Text.Hexadecimal
import ClientGen.Yaml.Folding

/-! # Quoted scalars

  Scalars between single or double quotes. Between single quotes, a quote is written twice. Between
  double quotes, a backslash starts an escape, and a backslash at the end of a line joins it with
  the next line. -/

namespace ClientGen.Yaml

inductive Quotes where
  | single
  | double
  deriving DecidableEq, Repr

def Quotes.mark : Quotes → Char
  | .single => '\x27'
  | .double => '\x22'

/-- The character that an escape of one letter stands for. -/
def escapedChar? (c : Char) : Option Char :=
  match c with
  | '0' => some '\x00'
  | 'a' => some '\x07'
  | 'b' => some '\x08'
  | 't' => some '\t'
  | '\t' => some '\t'
  | 'n' => some '\n'
  | 'v' => some '\x0b'
  | 'f' => some '\x0c'
  | 'r' => some '\r'
  | 'e' => some '\x1b'
  | ' ' => some ' '
  | '\x22' => some '\x22'
  | '/' => some '/'
  | '\\' => some '\\'
  | 'N' => some '\u0085'
  | '_' => some '\u00a0'
  | 'L' => some '\u2028'
  | 'P' => some '\u2029'
  | _ => none

/-- The number of hexadecimal digits behind the letter of an escape. -/
def escapeWidth? (c : Char) : Option Nat :=
  match c with
  | 'x' => some 2
  | 'u' => some 4
  | 'U' => some 8
  | _ => none

/-- The character with a code; none if there is no such character. -/
def charOfCode? (n : Nat) : Option Char := if n.isValidChar then some (Char.ofNat n) else none

/-- Where the reading of a quoted scalar stands. -/
inductive QuotedMode where
  /-- Among words, after a gap. -/
  | words (gap : Gap)
  | escape
  /-- Among the digits of an escape: how many are due, and the value so far. -/
  | code (due value : Nat)
  /-- Behind a single quote, which may be the first of two. -/
  | quote

/-- Reads a quoted scalar behind its first quote. The text so far is held last one first. -/
def quotedFrom (quotes : Quotes) (p : Place) (text : List Char) :
    QuotedMode → List Char → Option ScalarEnd
  | .quote, [] => some ⟨text.reverse, p, [], false⟩
  | _, [] => none
  | .escape, c :: rest =>
    -- An escaped line break adds nothing, and neither do the blanks behind it.
    if isBreak c then quotedFrom quotes (p.behind c) text (.words (.breaks [] [])) rest
    else
      match escapedChar? c, escapeWidth? c with
      | some e, _ => quotedFrom quotes (p.behind c) (e :: text) (.words .empty) rest
      | none, some width => quotedFrom quotes (p.behind c) text (.code width 0) rest
      | none, none => none
  | .code due value, c :: rest =>
    match Text.hexValue? c with
    | none => none
    | some digit =>
      if 1 < due then
        quotedFrom quotes (p.behind c) text (.code (due - 1) (16 * value + digit)) rest
      else
        match charOfCode? (16 * value + digit) with
        | some e => quotedFrom quotes (p.behind c) (e :: text) (.words .empty) rest
        | none => none
  | .quote, c :: rest =>
    if quotes = .single && c = quotes.mark then
      quotedFrom quotes (p.behind c) (c :: text) (.words .empty) rest
    else some ⟨text.reverse, p, c :: rest, false⟩
  | .words gap, c :: rest =>
    if isGap c then quotedFrom quotes (p.behind c) text (.words (gap.add c)) rest
    -- rest) then none
    else if atDocumentMark p (c :: rest) then none
    else
      let text := gap.text.reverse ++ text
      if c = quotes.mark then quotedFrom quotes (p.behind c) text .quote rest
      else if quotes = .double && c = '\\' then quotedFrom quotes (p.behind c) text .escape rest
      else quotedFrom quotes (p.behind c) (c :: text) (.words .empty) rest

/-- Reads a quoted scalar behind its first quote. -/
def quoted? (quotes : Quotes) (p : Place) (cs : List Char) : Option ScalarEnd :=
  quotedFrom quotes p [] (.words .empty) cs

end ClientGen.Yaml
