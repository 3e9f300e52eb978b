import ClientGen.Layout.Text
import ClientGen.Script.Lowering

/-! # Expressions in generated sources

  Expressions are written in one of two styles. Where the dialect has templates, a template is
  written between backquotes. Where it has none, a template is written as the sum of its parts. In
  both, a sum that is the right operand of another sum stands in parentheses. -/

namespace ClientGen.Layout

/-- How templates are written. -/
inductive TemplateStyle where
  | backquoted
  | summed
  deriving DecidableEq, Repr

/-- One character of the text of a template between backquotes. -/
def templateChar (c : Char) : List Char :=
  if c = '\\' || c = '\x60' || c = '$' then ['\\', c] else [c]

def templateText (s : String) : String := String.ofList (s.toList.flatMap templateChar)

/-- Whether an expression is written as a sum. -/
def isSum (style : TemplateStyle) : Expr → Bool
  | .concat _ _ => true
  | .template parts => style = .summed && 1 < (Script.summands parts).length
  | _ => false

/-- The text of a right operand: in parentheses if it is a sum. -/
def operand (inParentheses : Bool) (text : String) : String :=
  if inParentheses then "(" ++ text ++ ")" else text

/-- The text of a sum of written summands, each with the mark of being a sum itself. -/
def writeSum : List (String × Bool) → String
  | [] => quote ""
  | (first, _) :: rest =>
    rest.foldl (fun left right => left ++ " + " ++ operand right.2 right.1) first

/-- Puts the empty text in front of written summands unless the template begins with a text. -/
def startSum (parts : List TemplatePiece) (written : List (String × Bool)) : List (String × Bool) :=
  (if Script.beginsWithText parts then [] else [(quote "", false)]) ++ written

mutual

/-- The text of an expression on a line of the given level. -/
def expr (style : TemplateStyle) (level : Nat) : Expr → String
  | .ident name => name
  | .text value => quote value
  | .template parts =>
    match style with
    | .backquoted => "\x60" ++ templateParts style level parts ++ "\x60"
    | .summed => writeSum (startSum parts (writtenSummands style level parts))
  | .concat left right =>
    expr style level left ++ " + " ++ operand (isSum style right) (expr style level right)
  | .call callee arguments =>
    callee ++ "(" ++ ", ".intercalate (exprs style level arguments) ++ ")"
  | .construct callee arguments =>
    "new " ++ callee ++ "(" ++ ", ".intercalate (exprs style level arguments) ++ ")"
  | .object members => Text.bracketed "\x7b" "\x7d" level (memberTexts style (level + 1) members)

def exprs (style : TemplateStyle) (level : Nat) : List Expr → List String
  | [] => []
  | e :: rest => expr style level e :: exprs style level rest

def memberTexts (style : TemplateStyle) (level : Nat) : List (String × Expr) → List String
  | [] => []
  | (key, e) :: rest =>
    (keyText key ++ ": " ++ expr style level e) :: memberTexts style level rest

/-- The parts of a template between backquotes. -/
def templateParts (style : TemplateStyle) (level : Nat) : List TemplatePiece → String
  | [] => ""
  | .text s :: rest => templateText s ++ templateParts style level rest
  | .fill e :: rest =>
    "$\x7b" ++ expr style level e ++ "\x7d" ++ templateParts style level rest

/-- The written summands of a template, each with the mark of being a sum itself. -/
def writtenSummands (style : TemplateStyle) (level : Nat) :
    List TemplatePiece → List (String × Bool)
  | [] => []
  | .text s :: rest =>
    if s = "" then writtenSummands style level rest
    else (quote s, false) :: writtenSummands style level rest
  | .fill e :: rest =>
    (expr style level e, isSum style e) :: writtenSummands style level rest

end

theorem exprs_eq (style : TemplateStyle) (level : Nat) (es : List Expr) :
    exprs style level es = es.map (expr style level) := by
  induction es with
  | nil => rfl
  | cons e rest ih => rw [exprs, ih, List.map_cons]

theorem memberTexts_eq (style : TemplateStyle) (level : Nat) (members : List (String × Expr)) :
    memberTexts style level members
      = members.map fun m => keyText m.1 ++ ": " ++ expr style level m.2 := by
  induction members with
  | nil => rfl
  | cons m rest ih => rw [memberTexts, ih, List.map_cons]

def statement (style : TemplateStyle) : Statement → String
  | .result value => Text.indent 1 ++ "return " ++ expr style 1 value ++ ";"

def body (style : TemplateStyle) (statements : List Statement) : String :=
  "\n".intercalate (statements.map (statement style))

end ClientGen.Layout
