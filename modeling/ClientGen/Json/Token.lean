import ClientGen.Json.NumberText
import ClientGen.Text.Hexadecimal

/-! # JSON tokens

  The text of a document is cut into tokens by a machine that takes one character at a time. Between
  tokens blanks are skipped; a number or a word ends at the first character that cannot belong to
  it, which is then read between tokens. -/

namespace ClientGen.Json

/-- The smallest parts of a JSON text. -/
inductive Token where
  | openArray
  | closeArray
  | openObject
  | closeObject
  | comma
  | colon
  /-- A text in quotes, which is a value or a key. -/
  | text (s : String)
  /-- A value that is neither text, list nor object. -/
  | atom (v : Json)

namespace Token

/-- Where the machine stands. Collected characters are held last one first. -/
inductive Mode where
  | between
  | quoted (seen : List Char)
  | escape (seen : List Char)
  /-- Inside a code unit of four hexadecimal digits, with the first half of a surrogate pair if one
      came before. -/
  | unit (seen : List Char) (first : Option Nat) (digits : List Char)
  /-- After the first half of a surrogate pair: the backslash of the second half must follow. -/
  | secondHalf (seen : List Char) (first : Nat)
  /-- After that backslash: the letter of a code unit must follow. -/
  | secondUnit (seen : List Char) (first : Nat)
  | number (seen : List Char)
  | word (seen : List Char)

def isSpace (c : Char) : Bool := c = ' ' || c = '\t' || c = '\n' || c = '\r'

def isNumberChar (c : Char) : Bool :=
  c.isDigit || c = '-' || c = '+' || c = '.' || c = 'e' || c = 'E'

/-- The value of a word. -/
def wordValue? (word : List Char) : Option Json :=
  if word = "null".toList then some .null
  else if word = "true".toList then some (.bool true)
  else if word = "false".toList then some (.bool false)
  else none

/-- The character that a backslash and a letter stand for. -/
def escaped? (c : Char) : Option Char :=
  if c = '\x22' || c = '\\' || c = '/' then some c
  else if c = 'b' then some '\x08'
  else if c = 'f' then some '\x0c'
  else if c = 'n' then some '\n'
  else if c = 'r' then some '\r'
  else if c = 't' then some '\t'
  else none

/-- Whether a code unit is the first half of a surrogate pair. -/
def isFirstHalf (n : Nat) : Bool := 0xd800 ≤ n && n < 0xdc00

def isSecondHalf (n : Nat) : Bool := 0xdc00 ≤ n && n < 0xe000

/-- What a complete code unit does: it stands for a character, or it is half of a pair. Halves that
    stand alone are refused. -/
def afterUnit (seen : List Char) (first : Option Nat) (n : Nat) : Option Mode :=
  match first with
  | none =>
    if isFirstHalf n then some (.secondHalf seen n)
    else if isSecondHalf n then none
    else some (.quoted (Char.ofNat n :: seen))
  | some high =>
    if isSecondHalf n then
      some (.quoted (Char.ofNat (0x10000 + (high - 0xd800) * 0x400 + (n - 0xdc00)) :: seen))
    else none

/-- Reads one character between tokens: the tokens it completes, and where the machine goes. -/
def stepBetween (c : Char) : Option (List Token × Mode) :=
  if isSpace c then some ([], .between)
  else if c = '[' then some ([.openArray], .between)
  else if c = ']' then some ([.closeArray], .between)
  else if c = '\x7b' then some ([.openObject], .between)
  else if c = '\x7d' then some ([.closeObject], .between)
  else if c = ',' then some ([.comma], .between)
  else if c = ':' then some ([.colon], .between)
  else if c = '\x22' then some ([], .quoted [])
  else if c = '-' || c.isDigit then some ([], .number [c])
  else if c.isLower then some ([], .word [c])
  else none

def ofNumber (seen : List Char) : Option Token :=
  (Number.read? seen.reverse).map fun n => .atom (.number n)

def ofWord (seen : List Char) : Option Token := (wordValue? seen.reverse).map .atom

/-- Reads one character: the tokens it completes, and where the machine goes. -/
def step (mode : Mode) (c : Char) : Option (List Token × Mode) :=
  match mode with
  | .between => stepBetween c
  | .quoted seen =>
    if c = '\x22' then some ([.text (String.ofList seen.reverse)], .between)
    else if c = '\\' then some ([], .escape seen)
    -- Control characters must be escaped.
    else if c.toNat < 0x20 then none
    else some ([], .quoted (c :: seen))
  | .escape seen =>
    if c = 'u' then some ([], .unit seen none [])
    else (escaped? c).map fun e => ([], .quoted (e :: seen))
  | .unit seen first digits =>
    if digits.length < 3 then
      if (Text.hexValue? c).isSome then some ([], .unit seen first (c :: digits)) else none
    else do
      let n ← Text.hexNumber? (c :: digits).reverse
      let next ← afterUnit seen first n
      return ([], next)
  | .secondHalf seen first => if c = '\\' then some ([], .secondUnit seen first) else none
  | .secondUnit seen first => if c = 'u' then some ([], .unit seen (some first) []) else none
  | .number seen =>
    if isNumberChar c then some ([], .number (c :: seen))
    else do
      let token ← ofNumber seen
      -- Nothing marks the end of a number but the character behind it.
      let (tokens, next) ← stepBetween c
      return (token :: tokens, next)
  | .word seen =>
    if c.isLower then some ([], .word (c :: seen))
    else do
      let token ← ofWord seen
      let (tokens, next) ← stepBetween c
      return (token :: tokens, next)

/-- The tokens that the end of the text completes. -/
def finish : Mode → Option (List Token)
  | .between => some []
  | .number seen => (ofNumber seen).map ([·])
  | .word seen => (ofWord seen).map ([·])
  | _ => none

/-- Reads one more character of a text whose tokens so far are held last one first. -/
def advance (state : List Token × Mode) (c : Char) : Option (List Token × Mode) :=
  (step state.2 c).map fun (tokens, next) => (tokens.reverse ++ state.1, next)

/-- The tokens of a text; none if it is not made of tokens. -/
def scan (text : String) : Option (List Token) := do
  let (tokens, mode) ← text.toList.foldlM advance ([], .between)
  let last ← finish mode
  return tokens.reverse ++ last

end Token

end ClientGen.Json
