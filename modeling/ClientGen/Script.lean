import ClientGen.TypeTerm

/-! # Scripts

  The generated sources as trees. A script is a list of items: imports, a type alias, a function. It
  says nothing about how it is written; one script is written in more than one dialect. -/

namespace ClientGen

mutual

/-- An expression. -/
inductive Expr where
  | ident (name : String)
  | text (value : String)
  /-- A text with expressions filled in. -/
  | template (parts : List TemplatePiece)
  | concat (left right : Expr)
  | call (callee : String) (arguments : List Expr)
  /-- A new object of a class. -/
  | construct (callee : String) (arguments : List Expr)
  | object (members : List (String × Expr))

/-- A part of a template. -/
inductive TemplatePiece where
  | text (value : String)
  /-- An expression whose value is filled in. -/
  | fill (value : Expr)

end

instance : Inhabited Expr := ⟨.text ""⟩

inductive Statement where
  /-- Ends the function with a value. -/
  | result (value : Expr)

structure Argument where
  name : String
  /-- The type, if one is declared. -/
  type : Option TypeTerm

structure FunctionItem where
  name : String
  arguments : List Argument
  body : List Statement

/-- A name taken from another file. -/
inductive Import where
  /-- The value that the other file exports. -/
  | value (name source : String)
  /-- A type that the other file exports, under a name of this file. -/
  | type (name localName source : String)

structure TypeAlias where
  name : String
  type : TypeTerm
  /-- Whether other files may take it. -/
  exported : Bool

/-- An item of a script. -/
inductive Item where
  | imports (i : Import)
  | typeAlias (a : TypeAlias)
  | function (f : FunctionItem)

/-- A script: its items, in order. -/
structure Script where
  items : List Item

namespace Item

def import? : Item → Option Import
  | .imports i => some i
  | _ => none

def typeAlias? : Item → Option TypeAlias
  | .typeAlias a => some a
  | _ => none

def function? : Item → Option FunctionItem
  | .function f => some f
  | _ => none

end Item

namespace Script

def imports (s : Script) : List Import := s.items.filterMap Item.import?

def function? (s : Script) : Option FunctionItem := s.items.findSome? Item.function?

def typeAlias? (s : Script) (name : String) : Option TypeAlias :=
  (s.items.filterMap Item.typeAlias?).find? fun a => a.name = name

end Script

/-- What a unit of a package is made from. -/
inductive UnitOrigin where
  | operation
  | definition
  deriving DecidableEq, Repr

/-- One generated source of a package. -/
structure SourceUnit where
  name : String
  kind : UnitOrigin
  script : Script
  /-- The definitions that the source depends on, each once, in the order met. -/
  dependencies : List String

end ClientGen
