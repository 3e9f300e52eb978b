import ClientGen.Layout.Expr

/-! # Sources without types

  Scripts as CommonJS modules for old interpreters: types are left out, templates become sums. -/

namespace ClientGen.Layout.CommonJs

/-- The text of an import; a type needs none. -/
def importText? : Import → Option String
  | .value name source => some ("var " ++ name ++ " = require(" ++ quote source ++ ");")
  | .type _ _ _ => none

def functionText (f : FunctionItem) : String :=
  "exports.default = function " ++ f.name ++ "("
    ++ ", ".intercalate (f.arguments.map Argument.name) ++ ") \x7b\n" ++ body .summed f.body
    ++ "\n\x7d;"

/-- The text of a script: a heading, the imports together, then one section for each function. -/
def script (s : Script) : String :=
  let imports := s.imports.filterMap importText?
  file (["'use strict';"] ++ (if imports.isEmpty then [] else ["\n".intercalate imports])
    ++ (s.items.filterMap Item.function?).map functionText)

def extension : String := "js"

end ClientGen.Layout.CommonJs
