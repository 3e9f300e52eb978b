import ClientGen.Text.Hexadecimal
import ClientGen.Yaml.Block
import ClientGen.Yaml.Token

/-! # Anchors, tags and directives

  The names that nodes carry, and the declarations in front of a document. Each reader takes the
  characters behind its first mark and returns what follows. -/

namespace ClientGen.Yaml

/-! ## Anchors -/

/-- Whether the name of an anchor may end here. -/
def atAnchorEnd : List Char → Bool
  | [] => true
  | c :: _ =>
    isGap c || c = '?' || c = ':' || c = ',' || c = ']' || c = '\x7d' || c = '%' || c = '@'
      || c = '\x60'

/-- Reads the name of an anchor or of a reference to one. -/
def anchorName? (cs : List Char) : Option (List Char × List Char) :=
  let name := cs.takeWhile isNameChar
  let rest := cs.dropWhile isNameChar
  if name.isEmpty || !atAnchorEnd rest then none else some (name, rest)

/-! ## Tags -/

def tagMarks : List Char :=
  [';', '/', '?', ':', '@', '&', '=', '+', '$', '.', '!', '~', '*', '\x27', '(', ')']

/-- Whether a tag may hold a character; some marks of brackets are allowed in a wide tag only. -/
def isTagChar (wide : Bool) (c : Char) : Bool :=
  isNameChar c || tagMarks.contains c || (wide && (c = ',' || c = '[' || c = ']'))

/-- The number of octets of a character, told by the first of them. -/
def octetWidth? (octet : Nat) : Option Nat :=
  if octet < 0x80 then some 1
  else if octet / 0x20 = 0b110 then some 2
  else if octet / 0x10 = 0b1110 then some 3
  else if octet / 0x08 = 0b11110 then some 4
  else none

/-- How many octets of a character are still due behind an octet of an escape. -/
def dueBehind? (due octet : Nat) : Option Nat :=
  if due = 0 then (octetWidth? octet).map (· - 1)
  else if octet / 0x40 = 0b10 then some (due - 1)
  else none

/-- Reads the characters of a tag, of which `seen` was read, last one first. Escaped octets count as
    one character each; `due` of them must follow. -/
def tagChars (wide : Bool) (seen : List Char) (due : Nat) :
    List Char → Option (List Char × List Char)
  | [] => if due = 0 then some (seen.reverse, []) else none
  | '%' :: a :: b :: rest => do
    let high ← Text.hexValue? a
    let low ← Text.hexValue? b
    let due ← dueBehind? due (16 * high + low)
    tagChars wide (Char.ofNat (16 * high + low) :: seen) due rest
  | c :: rest =>
    if c = '%' then none
    else if due ≠ 0 then none
    else if isTagChar wide c then tagChars wide (c :: seen) 0 rest
    else some (seen.reverse, c :: rest)

/-- Reads the characters of a tag, at least one. -/
def someTagChars? (wide : Bool) (cs : List Char) : Option (List Char × List Char) := do
  let (text, rest) ← tagChars wide [] 0 cs
  if text.isEmpty then none else some (text, rest)

/-- The characters of a tag that count: those before the first zero octet, which can only be written
    as an escape. -/
def beforeZero (cs : List Char) : List Char := cs.takeWhile (· ≠ '\x00')

def atTagEnd (inFlow : Bool) (cs : List Char) : Bool :=
  atWordEnd cs || (inFlow && cs.head? = some ',')

/-- Reads a tag behind its exclamation mark: a whole tag between angle brackets, a handle between
    two exclamation marks with the rest, or the rest alone. -/
def tagText? (inFlow : Bool) (cs : List Char) : Option (TagText × List Char) := do
  let (tag, rest) ← match cs with
    | '<' :: cs => do
      let (text, rest) ← someTagChars? true cs
      match rest with
      | '>' :: rest => some (TagText.mk [] (beforeZero text), rest)
      | _ => none
    | cs => do
      let name := cs.takeWhile isNameChar
      match cs.dropWhile isNameChar with
      | '!' :: rest => do
        let (text, rest) ← someTagChars? false rest
        some (TagText.mk (['!'] ++ name ++ ['!']) (beforeZero text), rest)
      | rest => do
        let (text, rest) ← tagChars false name.reverse 0 rest
        let text := beforeZero text
        some (if text.isEmpty then TagText.mk [] ['!'] else TagText.mk ['!'] text, rest)
  if atTagEnd inFlow rest then some (tag, rest) else none

/-! ## Directives -/

/-- Reads a number of at most nine digits. -/
def shortNumber? (cs : List Char) : Option (Nat × List Char) :=
  let digits := cs.takeWhile Char.isDigit
  if digits.isEmpty || 9 < digits.length then none
  else some (digits.foldl (fun n c => n * 10 + (c.toNat - '0'.toNat)) 0, cs.dropWhile Char.isDigit)

/-- Reads the version behind its directive. -/
def versionDirective? (cs : List Char) : Option (Token × List Char) := do
  let (major, rest) ← shortNumber? (cs.dropWhile isBlank)
  match rest with
  | '.' :: rest => do
    let (minor, rest) ← shortNumber? rest
    some (.version major minor, rest)
  | _ => none

/-- Reads the handle of a tag in a directive. -/
def directiveHandle? (cs : List Char) : Option (List Char × List Char) :=
  match cs with
  | '!' :: cs =>
    let name := cs.takeWhile isNameChar
    match cs.dropWhile isNameChar with
    | '!' :: rest => some (['!'] ++ name ++ ['!'], rest)
    | rest => if name.isEmpty then some (['!'], rest) else none
  | _ => none

/-- Reads the handle and the beginning it stands for behind their directive. -/
def tagDirective? (cs : List Char) : Option (Token × List Char) := do
  let (handle, rest) ← directiveHandle? (cs.dropWhile isBlank)
  if (rest.head?.map isBlank).getD false then do
    let (start, rest) ← someTagChars? true (rest.dropWhile isBlank)
    if atWordEnd rest then some (.tagHandle handle (beforeZero start), rest) else none
  else none

/-- Reads a directive behind its percent sign, up to the end of its line. -/
def directive? (cs : List Char) : Option (Token × List Char) := do
  let name := cs.takeWhile isNameChar
  let rest := cs.dropWhile isNameChar
  if !atWordEnd rest then none
  else do
    let (token, rest) ←
      if name = "YAML".toList then versionDirective? rest
      else if name = "TAG".toList then tagDirective? rest
      else none
    let rest ← lineRest? rest
    some (token, rest)

end ClientGen.Yaml
