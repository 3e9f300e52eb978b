import ClientGen.Text.CaseTable

/-! # Lower case

  The lower-case form of a text by the Unicode rules. It is almost the lower-case form of each
  character in turn, with two exceptions:

  * **One letter may become two**: the dotted capital I keeps its dot as a combining mark.
  * **A capital sigma looks around**: at the end of a word it becomes the final sigma.

  The second makes the form depend on context, so two texts that agree letter by letter may differ
  as words. -/

namespace ClientGen.Text

/-- The run of capital letters that holds a character. -/
def CaseRun.holds (run : CaseRun) (c : Char) : Bool :=
  run.first ≤ c.toNat && c.toNat ≤ run.last && (c.toNat - run.first) % run.step == 0

/-- The lower-case form of one character, taken on its own. -/
def lowerChar (c : Char) : List Char :=
  if c = '\u0130' then ['i', '\u0307']
  else
    match caseRuns.find? (·.holds c) with
    | some run => [Char.ofNat ((c.toNat : Int) + run.shift).toNat]
    | none => [c]

/-- Whether the nearest character that is not skipped is a cased one. -/
def nextIsCased (cs : List Char) : Bool :=
  match cs.dropWhile (memRanges skippedRanges) with
  | [] => false
  | c :: _ => memRanges casedRanges c

/-- Whether a position between the characters `before`, the nearest first, and the characters
    `after` ends a word. -/
def endsWord (before after : List Char) : Bool := nextIsCased before && !nextIsCased after

/-- The lower-case form of the characters that follow `before`, which is held nearest first. -/
def lowerAfter (before : List Char) : List Char → List Char
  | [] => []
  | c :: rest =>
    (if c = 'Σ' then [if endsWord before rest then 'ς' else 'σ'] else lowerChar c)
      ++ lowerAfter (c :: before) rest

/-- The lower-case form of a text. -/
def lower (s : String) : String := String.ofList (lowerAfter [] s.toList)

/-- The lower-case form of each character on its own, without a look around. -/
def lowerEach (s : String) : String := String.ofList (s.toList.flatMap lowerChar)

end ClientGen.Text
