import ClientGen.Yaml.Text

/-! # Folding

  Inside a scalar of more than one line, the blanks around a line break are no part of the text. One
  line break alone stands for a space; of several, the first is dropped and the others are kept. -/

namespace ClientGen.Yaml

/-- The blanks and line breaks between two words of a scalar. -/
inductive Gap where
  | empty
  /-- Blanks on one line, last one first. -/
  | blanks (seen : List Char)
  /-- Line breaks: the text of the first one, then the others in order. -/
  | breaks (first later : List Char)
  deriving DecidableEq, Repr

namespace Gap

/-- A gap that goes on with one more blank or line break. -/
def add (g : Gap) (c : Char) : Gap :=
  if isBreak c then
    match g with
    | .breaks first later => .breaks first (later ++ [c])
    | _ => .breaks [c] []
  else
    match g with
    | .empty => .blanks [c]
    | .blanks seen => .blanks (c :: seen)
    | .breaks first later => .breaks first later

/-- What a gap between two words adds to the text. -/
def text : Gap → List Char
  | .empty => []
  | .blanks seen => seen.reverse
  | .breaks first later =>
    if first = ['\n'] then (if later.isEmpty then [' '] else later) else first ++ later

def isBroken : Gap → Bool
  | .breaks _ _ => true
  | _ => false

end Gap

/-- A scalar that was read: its text, the place behind it, and what follows. -/
structure ScalarEnd where
  text : List Char
  place : Place
  rest : List Char
  /-- Whether the scalar ends with a line break. -/
  broken : Bool := false

end ClientGen.Yaml
