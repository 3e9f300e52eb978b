import ClientGen.Script

/-! # Templates as sums

  A dialect without templates writes a template as a sum of its parts. The plus sign adds numbers
  and joins texts, so the sum begins with a text: then every plus sign joins. -/

namespace ClientGen.Script

/-- The summand that a part of a template becomes; empty text becomes none. -/
def summand? : TemplatePiece → Option Expr
  | .text s => if s = "" then none else some (.text s)
  | .fill e => some e

def isText : Expr → Bool
  | .text _ => true
  | _ => false

/-- Whether the first summand of a template is a text already. -/
def beginsWithText (parts : List TemplatePiece) : Bool :=
  ((parts.filterMap summand?).head?.map isText).getD false

/-- The summands of a template, of which the first is a text: the empty text is put in front where
    the template does not begin with one. -/
def summands (parts : List TemplatePiece) : List Expr :=
  (if beginsWithText parts then [] else [.text ""]) ++ parts.filterMap summand?

/-- The sum of expressions, grouped to the left. -/
def sum : List Expr → Expr
  | [] => .text ""
  | e :: rest => rest.foldl .concat e

/-- The sum that a template becomes. Templates among its summands are left as they are. -/
def sumOfTemplate (parts : List TemplatePiece) : Expr := sum (summands parts)

/-! ## Whole expressions -/

mutual

/-- An expression without templates: each has become the sum of its summands, from the outside to
    the inside. -/
def lower : Expr → Expr
  | .ident name => .ident name
  | .text value => .text value
  | .template parts =>
    sum ((if beginsWithText parts then [] else [.text ""]) ++ lowerSummands parts)
  | .concat left right => .concat (lower left) (lower right)
  | .call callee arguments => .call callee (lowerAll arguments)
  | .construct callee arguments => .construct callee (lowerAll arguments)
  | .object members => .object (lowerMembers members)

def lowerAll : List Expr → List Expr
  | [] => []
  | e :: rest => lower e :: lowerAll rest

def lowerMembers : List (String × Expr) → List (String × Expr)
  | [] => []
  | (key, e) :: rest => (key, lower e) :: lowerMembers rest

/-- The summands of a template, themselves without templates. -/
def lowerSummands : List TemplatePiece → List Expr
  | [] => []
  | .text s :: rest => if s = "" then lowerSummands rest else .text s :: lowerSummands rest
  | .fill e :: rest => lower e :: lowerSummands rest

end

end ClientGen.Script
