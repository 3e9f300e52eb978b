import ClientGen.Proofs.Script.Names

/-! # Values of expressions

  Expressions are given values by the rules of the generated language, as far as these bear on text.

  * **A template** writes the values that are filled in and joins all its texts.
  * **A plus sign** between two numbers adds them. Otherwise it writes both operands and joins them.

  What numbers are is left open, and so is what functions and classes give back. Objects are not
  written as text. An expression that would do so has no value, and neither has one that uses a name
  that means nothing. -/

namespace ClientGen

/-! ## Values -/

inductive Value (ν : Type) where
  | text (value : String)
  | number (value : ν)
  | object (members : List (String × Value ν))

/-- What is assumed of numbers. -/
structure Numbers (ν : Type) where
  /-- The sum of two numbers. -/
  add : ν → ν → ν
  /-- A number written as text. -/
  write : ν → String

variable {ν : Type}

namespace Value

/-- A value written as text. -/
def form? (numbers : Numbers ν) : Value ν → Option String
  | .text value => some value
  | .number value => some (numbers.write value)
  | .object _ => none

/-- What a plus sign makes of two values. -/
def plus? (numbers : Numbers ν) : Value ν → Value ν → Option (Value ν)
  | .number left, .number right => some (.number (numbers.add left right))
  | left, right => do return .text ((← left.form? numbers) ++ (← right.form? numbers))

/-- Behind a text a plus sign writes what follows, if it can. -/
theorem plus?_text (numbers : Numbers ν) (left : String) (right : Value ν) :
    plus? numbers (.text left) right
      = (right.form? numbers).map fun form => .text (left ++ form) := by
  cases right <;> rfl

/-- Beside a text a plus sign joins. -/
theorem plus?_text_left {numbers : Numbers ν} {left form : String} {right : Value ν}
    (h : right.form? numbers = some form) :
    plus? numbers (.text left) right = some (.text (left ++ form)) := by
  rw [plus?_text, h]
  rfl

theorem plus?_text_right {numbers : Numbers ν} {right form : String} {left : Value ν}
    (h : left.form? numbers = some form) :
    plus? numbers left (.text right) = some (.text (form ++ right)) := by
  have hplus : plus? numbers left (.text right)
      = (left.form? numbers).bind fun form => some (.text (form ++ right)) := by
    cases left <;> rfl
  rw [hplus, h]
  rfl

end Value

/-! ## Expressions -/

/-- What names mean. -/
structure Scope (ν : Type) where
  value : String → Option (Value ν)
  /-- What a function makes of its arguments. -/
  call : String → List (Value ν) → Option (Value ν)
  /-- What a class makes of its arguments. -/
  construct : String → List (Value ν) → Option (Value ν)

namespace Expr

mutual

def eval? (numbers : Numbers ν) (scope : Scope ν) : Expr → Option (Value ν)
  | .ident name => scope.value name
  | .text value => some (.text value)
  | .template parts => (join? numbers scope parts).map .text
  | .concat left right => do
    Value.plus? numbers (← eval? numbers scope left) (← eval? numbers scope right)
  | .call callee arguments => do scope.call callee (← evalAll? numbers scope arguments)
  | .construct callee arguments => do scope.construct callee (← evalAll? numbers scope arguments)
  | .object members => (evalMembers? numbers scope members).map .object

def evalAll? (numbers : Numbers ν) (scope : Scope ν) : List Expr → Option (List (Value ν))
  | [] => some []
  | e :: rest => do return (← eval? numbers scope e) :: (← evalAll? numbers scope rest)

def evalMembers? (numbers : Numbers ν) (scope : Scope ν) :
    List (String × Expr) → Option (List (String × Value ν))
  | [] => some []
  | (name, e) :: rest => do
    return (name, ← eval? numbers scope e) :: (← evalMembers? numbers scope rest)

/-- The text of the parts of a template. -/
def join? (numbers : Numbers ν) (scope : Scope ν) : List TemplatePiece → Option String
  | [] => some ""
  | .text value :: rest => do return value ++ (← join? numbers scope rest)
  | .fill e :: rest => do
    return (← (← eval? numbers scope e).form? numbers) ++ (← join? numbers scope rest)

end

theorem eval?_concat {numbers : Numbers ν} {scope : Scope ν} {left right : Expr} {l r : Value ν}
    (hleft : left.eval? numbers scope = some l) (hright : right.eval? numbers scope = some r) :
    (Expr.concat left right).eval? numbers scope = Value.plus? numbers l r := by
  rw [eval?, hleft, hright]
  rfl

end Expr

/-! ## Functions -/

namespace FunctionItem

/-- What names mean in the body of a function. An argument hides everything of its name that stands
    around the function, and no argument is a function or a class. -/
def scope (f : FunctionItem) (outer : Scope ν) (given : String → Value ν) : Scope ν where
  value name := if name ∈ f.argumentNames then some (given name) else outer.value name
  -- The values given are no functions, so a call of an argument comes to nothing.
  call callee values := if callee ∈ f.argumentNames then none else outer.call callee values
  construct callee values :=
    if callee ∈ f.argumentNames then none else outer.construct callee values

theorem value_scope {f : FunctionItem} {outer : Scope ν} {given : String → Value ν} {name : String}
    (h : name ∈ f.argumentNames) : (f.scope outer given).value name = some (given name) :=
  if_pos h

theorem call_scope {f : FunctionItem} {outer : Scope ν} {given : String → Value ν}
    {callee : String} (values : List (Value ν)) (h : callee ∉ f.argumentNames) :
    (f.scope outer given).call callee values = outer.call callee values :=
  if_neg h

end FunctionItem

end ClientGen
