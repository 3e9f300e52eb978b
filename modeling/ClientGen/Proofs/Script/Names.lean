import Mathlib.Data.List.Nodup
import ClientGen.Script

/-! # Names in scripts

  Two questions about the names of a script: which names it binds at its top level, and which names
  its types and expressions use.

  * **Bound names**: one for each item. An import of a type binds its local name.
  * **Used names**: the links of types, and the identifiers and callees of expressions. -/

namespace ClientGen

/-! ## Imports by kind -/

structure TypeImport where
  /-- The name in the other file. -/
  name : String
  /-- The name in this file. -/
  localName : String
  source : String
  deriving DecidableEq, Repr

def Import.type? : Import → Option TypeImport
  | .type name localName source => some ⟨name, localName, source⟩
  | .value _ _ => none

def Script.typeImports (s : Script) : List TypeImport := s.imports.filterMap Import.type?

/-- The name that a link stands for in the other file; a name that is no local name of an import
    stands for itself. -/
def importedName (imports : List TypeImport) (name : String) : String :=
  ((imports.find? fun i => i.localName = name).map TypeImport.name).getD name

theorem importedName_eq {imports : List TypeImport} {i : TypeImport} (hi : i ∈ imports)
    (hunique : ∀ j ∈ imports, j.localName = i.localName → j = i) :
    importedName imports i.localName = i.name := by
  have hfound : (imports.find? fun j => j.localName = i.localName).isSome := by
    rw [List.find?_isSome]
    exact ⟨i, hi, by simp⟩
  obtain ⟨j, hj⟩ := Option.isSome_iff_exists.mp hfound
  -- The first import found may be another entry, but it has the same local name.
  have hlocal : j.localName = i.localName := by simpa using List.find?_some hj
  unfold importedName
  rw [hj, hunique j (List.mem_of_find?_eq_some hj) hlocal]
  rfl

/-! ## Bound names -/

/-- The name that an item binds at the top level of its script. -/
def Item.boundName : Item → String
  | .imports (.value name _) => name
  | .imports (.type _ localName _) => localName
  | .typeAlias a => a.name
  | .function f => f.name

/-- The names bound at the top level of a script, in order. -/
def Script.topLevelNames (s : Script) : List String := s.items.map Item.boundName

/-- Where no name is bound twice, a bound name leads to one item. -/
theorem Script.existsUnique_item {s : Script} (h : s.topLevelNames.Nodup) {n : String}
    (hn : n ∈ s.topLevelNames) : ∃! item, item ∈ s.items ∧ item.boundName = n := by
  obtain ⟨item, hitem, rfl⟩ := List.mem_map.mp hn
  refine ⟨item, ⟨hitem, rfl⟩, ?_⟩
  -- Two items with one name would stand at one place of the list of names.
  rintro other ⟨hother, hname⟩
  exact List.inj_on_of_nodup_map h hother hitem hname

/-! ## Used names -/

namespace Expr

mutual

def identifiers : Expr → List String
  | .ident name => [name]
  | .text _ => []
  | .template parts => identifiersOfParts parts
  | .concat left right => identifiers left ++ identifiers right
  | .call _ arguments => identifiersOfAll arguments
  | .construct _ arguments => identifiersOfAll arguments
  | .object members => identifiersOfMembers members

def identifiersOfAll : List Expr → List String
  | [] => []
  | e :: rest => identifiers e ++ identifiersOfAll rest

def identifiersOfMembers : List (String × Expr) → List String
  | [] => []
  | (_, e) :: rest => identifiers e ++ identifiersOfMembers rest

def identifiersOfParts : List TemplatePiece → List String
  | [] => []
  | .text _ :: rest => identifiersOfParts rest
  | .fill e :: rest => identifiers e ++ identifiersOfParts rest

end

mutual

def callees : Expr → List String
  | .ident _ => []
  | .text _ => []
  | .template parts => calleesOfParts parts
  | .concat left right => callees left ++ callees right
  | .call callee arguments => callee :: calleesOfAll arguments
  | .construct callee arguments => callee :: calleesOfAll arguments
  | .object members => calleesOfMembers members

def calleesOfAll : List Expr → List String
  | [] => []
  | e :: rest => callees e ++ calleesOfAll rest

def calleesOfMembers : List (String × Expr) → List String
  | [] => []
  | (_, e) :: rest => callees e ++ calleesOfMembers rest

def calleesOfParts : List TemplatePiece → List String
  | [] => []
  | .text _ :: rest => calleesOfParts rest
  | .fill e :: rest => callees e ++ calleesOfParts rest

end

end Expr

def Statement.expression : Statement → Expr
  | .result value => value

namespace FunctionItem

def argumentNames (f : FunctionItem) : List String := f.arguments.map Argument.name

/-- The links of the types of the arguments of a function, in order and with repetitions. -/
def links (f : FunctionItem) : List String :=
  (f.arguments.filterMap Argument.type).flatMap TypeTerm.links

def identifiers (f : FunctionItem) : List String :=
  f.body.flatMap fun s => s.expression.identifiers

def callees (f : FunctionItem) : List String := f.body.flatMap fun s => s.expression.callees

end FunctionItem

end ClientGen
