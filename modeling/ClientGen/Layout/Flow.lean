import ClientGen.Layout.Expr

/-! # Sources with types

  Scripts as modules of the Flow dialect: types are written out, templates stay templates. -/

namespace ClientGen.Layout.Flow

mutual

/-- The text of a type on a line of the given level. -/
def type (level : Nat) : TypeTerm → String
  | .string => "string"
  | .number => "number"
  | .boolean => "boolean"
  | .any => "any"
  | .object => "Object"
  | .named name => name
  | .array element => "Array<" ++ type level element ++ ">"
  | .record fields => Text.bracketed "\x7b|" "|\x7d" level (fieldTexts (level + 1) fields)

def fieldTexts (level : Nat) : List Field → List String
  | [] => []
  | ⟨name, t, optional⟩ :: rest =>
    (keyText name ++ (if optional then "?" else "") ++ ": " ++ type level t)
      :: fieldTexts level rest

end

def importText : Import → String
  | .value name source => "import " ++ name ++ " from " ++ quote source ++ ";"
  | .type name localName source =>
    let names := if name = localName then name else name ++ " as " ++ localName
    "import type \x7b " ++ names ++ " \x7d from " ++ quote source ++ ";"

def aliasText (a : TypeAlias) : String :=
  (if a.exported then "export " else "") ++ "type " ++ a.name ++ " = " ++ type 0 a.type ++ ";"

def argumentText (a : Argument) : String :=
  match a.type with
  | some t => a.name ++ ": " ++ type 0 t
  | none => a.name

def functionText (f : FunctionItem) : String :=
  "export default function " ++ f.name ++ "(" ++ ", ".intercalate (f.arguments.map argumentText)
    ++ ") \x7b\n" ++ body .backquoted f.body ++ "\n\x7d"

/-- The text of an item that makes a section of its own. -/
def sectionText? : Item → Option String
  | .imports _ => none
  | .typeAlias a => some (aliasText a)
  | .function f => some (functionText f)

/-- The text of a script: a heading, the imports together, then one section for each other
    item. -/
def script (s : Script) : String :=
  let imports := s.imports.map importText
  file (["// @flow"] ++ (if imports.isEmpty then [] else ["\n".intercalate imports])
    ++ s.items.filterMap sectionText?)

def extension : String := "js.flow"

end ClientGen.Layout.Flow
