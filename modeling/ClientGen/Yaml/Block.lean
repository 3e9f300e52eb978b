import ClientGen.Yaml.Folding

/-! # Block scalars

  Scalars of indented lines behind a header. The literal style keeps line breaks; the folded style
  folds those between lines that do not begin with a blank. The header may say how deep the lines
  are indented, and what happens to the line breaks at the end. -/

namespace ClientGen.Yaml

/-- What happens to the line breaks at the end of a block. -/
inductive Chomping where
  | strip
  /-- The first is kept. -/
  | clip
  | keep
  deriving DecidableEq, Repr

/-- What the header of a block says. -/
structure BlockHeader where
  /-- Whether line breaks are kept as they are. -/
  literal : Bool
  chomping : Chomping
  /-- How much deeper than the block around it the lines are indented. -/
  increment : Option Nat
  deriving DecidableEq, Repr

/-- Reads the mark about line breaks at the end, if it is there. -/
def chompingMark? : List Char → Option (Chomping × List Char)
  | '+' :: rest => some (.keep, rest)
  | '-' :: rest => some (.strip, rest)
  | _ => none

/-- Reads the digit about the indentation, if it is there; zero is refused. -/
def incrementMark? : List Char → Option (Option Nat × List Char)
  | [] => some (none, [])
  | c :: rest =>
    if c = '0' then none
    else if c.isDigit then some (some (c.toNat - '0'.toNat), rest)
    else some (none, c :: rest)

/-- Reads the two marks of a header in either order. -/
def blockHeader? (literal : Bool) (cs : List Char) : Option (BlockHeader × List Char) :=
  match chompingMark? cs with
  | some (chomping, rest) => do
    let (increment, rest) ← incrementMark? rest
    return (⟨literal, chomping, increment⟩, rest)
  | none => do
    let (increment, rest) ← incrementMark? cs
    match increment, chompingMark? rest with
    | some _, some (chomping, rest) => return (⟨literal, chomping, increment⟩, rest)
    | _, _ => return (⟨literal, .clip, increment⟩, rest)

/-- Drops the rest of a line: blanks, and a comment behind them. None if there is more. -/
def lineRest? (cs : List Char) : Option (List Char) :=
  let cs := cs.dropWhile isBlank
  let cs := if cs.head? = some '#' then cs.dropWhile fun c => !isBreak c else cs
  if atLineEnd cs then some cs else none

/-- Where the reading of a block stands. -/
inductive BlockMode where
  | front
  | inside

/-- The state of the reading of a block. Texts are held last one first. -/
structure BlockState where
  /-- How deep the lines are indented; none until the first line that is not empty. -/
  indent : Option Nat
  /-- The deepest indentation of the empty lines so far. -/
  deepest : Nat := 0
  text : List Char := []
  lastBreak : List Char := []
  /-- The line breaks of the empty lines behind it. -/
  emptyBreaks : List Char := []
  /-- Whether the last line begins with a blank. -/
  lastBlank : Bool := false

namespace BlockState

def inIndentation (s : BlockState) (column : Nat) : Bool :=
  match s.indent with
  | none => true
  | some n => column < n

/-- The state once the indentation is settled: if no line told it, it is the deepest indentation of
    the empty lines, and at least `least`. -/
def settle (s : BlockState) (least column : Nat) : BlockState :=
  match s.indent with
  | some _ => s
  | none => { s with indent := some (max (max s.deepest column) least) }

/-- The state when a line that is not empty begins with the given character. -/
def beginLine (s : BlockState) (literal : Bool) (c : Char) : BlockState :=
  -- One line break between lines that begin with words becomes a space, or nothing in front of
  -- empty lines.
  let folds := !literal && s.lastBreak = ['\n'] && !s.lastBlank && !isBlank c
  let text :=
    if folds then (if s.emptyBreaks.isEmpty then ' ' :: s.text else s.text)
    else s.lastBreak ++ s.text
  { s with text := s.emptyBreaks ++ text, lastBreak := [], emptyBreaks := [],
           lastBlank := isBlank c }

def finish (s : BlockState) (chomping : Chomping) : List Char :=
  match chomping with
  | .strip => s.text.reverse
  | .clip => (s.lastBreak ++ s.text).reverse
  | .keep => (s.emptyBreaks ++ s.lastBreak ++ s.text).reverse

end BlockState

/-- Reads the lines of a block. If the header does not tell it, the indentation is at least
    `least`. -/
def blockFrom (header : BlockHeader) (least : Nat) (s : BlockState) (p : Place) :
    BlockMode → List Char → Option ScalarEnd
  | .front, [] => some ⟨s.finish header.chomping, p, [], true⟩
  | .inside, [] => some ⟨s.finish header.chomping, p, [], true⟩
  | .front, c :: rest =>
    if c = ' ' && s.inIndentation p.column then blockFrom header least s (p.behind c) .front rest
    else if c = '\t' && s.inIndentation p.column then none
    else if isBreak c then
      let s := { s with deepest := max s.deepest p.column, emptyBreaks := c :: s.emptyBreaks }
      blockFrom header least s (p.behind c) .front rest
    else
      let s := s.settle least p.column
      -- A line that is indented less ends the block.
      if s.indent = some p.column then
        let s := s.beginLine header.literal c
        blockFrom header least { s with text := c :: s.text } (p.behind c) .inside rest
      else some ⟨s.finish header.chomping, p, c :: rest, true⟩
  | .inside, c :: rest =>
    if isBreak c then
      blockFrom header least { s with lastBreak := [c] } (p.behind c) .front rest
    else blockFrom header least { s with text := c :: s.text } (p.behind c) .inside rest

/-- Reads a block scalar behind its first mark, inside a block that is indented by `around`, or by
    less than nothing outside of all blocks. -/
def block? (literal : Bool) (around : Int) (p : Place) (cs : List Char) : Option ScalarEnd := do
  let (header, rest) ← blockHeader? literal cs
  let rest ← lineRest? rest
  let indent := header.increment.map fun n => (max around 0).toNat + n
  -- Even outside of all blocks a text is indented.
  let least := max (around + 1).toNat 1
  match rest with
  | [] => return { text := [], place := p.behindAll cs, rest := [], broken := true }
  | _ :: rest => blockFrom header least { indent := indent } p.nextLine .front rest

end ClientGen.Yaml
