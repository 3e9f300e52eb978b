import ClientGen.Proofs.Operation.Accepted
import ClientGen.Proofs.Script.Names
import ClientGen.Proofs.TypeTerm.Links

/-! # The items of a unit

  The unit of an accepted operation, item by item: imports of helpers, imports of the linked
  definitions, the alias of the answer, the function. In the types of the last two every link has
  been led through one map of names, `localName`, which only moves the name of the alias. -/

namespace ClientGen

/-- An argument with the links of its type led through a map of names. -/
def Argument.mapLinks (f : String → String) (a : Argument) : Argument :=
  { a with type := a.type.map (TypeTerm.mapLinks f) }

namespace Operation

/-! ## Names -/

/-- The linked definitions, each once, in the order met. -/
def importedNames (op : Operation) : List String := Names.firstSeen op.linkedNames

/-- The name under which the unit refers to a definition. -/
def localName (op : Operation) (name : String) : String :=
  if name = Generated.response then (responseImport? op.importedNames).getD name else name

def helperNames (op : Operation) : List String :=
  (if op.hasQuery then [Generated.makeQuery] else []) ++ [Generated.request]

theorem mem_importedNames {op : Operation} {n : String} :
    n ∈ op.importedNames ↔ n ∈ op.linkedNames := Names.mem_firstSeen

theorem nodup_importedNames (op : Operation) : op.importedNames.Nodup := Names.nodup_firstSeen _

theorem localName_of_ne {op : Operation} {n : String} (h : n ≠ Generated.response) :
    op.localName n = n := by
  simp [localName, h]

theorem withImport_responseImport? (op : Operation) (t : TypeTerm) :
    withImport (responseImport? op.importedNames) t = t.mapLinks op.localName := by
  unfold withImport localName
  cases responseImport? op.importedNames with
  | none => exact (TypeTerm.mapLinks_eq_self t (by simp)).symm
  | some fresh => exact TypeTerm.relink_eq_mapLinks _ _ t

/-! ## Items -/

def unitTypeImport (op : Operation) (name : String) : TypeImport :=
  ⟨name, op.localName name, "../types/" ++ name⟩

def unitAlias (op : Operation) : TypeAlias :=
  ⟨Generated.response, op.plainAnswer.mapLinks op.localName, true⟩

def unitFunction (op : Operation) : FunctionItem :=
  ⟨op.id, op.plainArguments.map (Argument.mapLinks op.localName),
    op.requestBody op.payloadParameter?.isSome⟩

theorem items_sourceUnit (op : Operation) :
    op.sourceUnit.script.items
      = op.helperNames.map importOfHelper
        ++ op.importedNames.map (fun n => .imports (.type n (op.localName n) ("../types/" ++ n)))
        ++ [.typeAlias op.unitAlias, .function op.unitFunction] := by
  have htypes : withImport (responseImport? op.importedNames)
      = TypeTerm.mapLinks op.localName := funext op.withImport_responseImport?
  -- The writer of queries stands first among the helpers, if it is there.
  have hhelpers : (if op.hasQuery then [importOfHelper Generated.makeQuery] else [])
        ++ [importOfHelper Generated.request] = op.helperNames.map importOfHelper := by
    unfold helperNames
    cases op.hasQuery <;> rfl
  show op.items op.importedNames op.plainArguments op.plainAnswer op.payloadParameter?.isSome = _
  simp only [items, htypes, hhelpers]
  rfl

theorem imports_sourceUnit (op : Operation) :
    op.sourceUnit.script.imports
      = op.helperNames.map (fun n => .value n ("../helpers/" ++ n))
        ++ op.importedNames.map (fun n => .type n (op.localName n) ("../types/" ++ n)) := by
  unfold Script.imports
  rw [items_sourceUnit]
  simp [List.filterMap_append, List.filterMap_map, Function.comp_def, Item.import?,
    importOfHelper, List.filterMap_cons]

theorem typeImports_sourceUnit (op : Operation) :
    op.sourceUnit.script.typeImports = op.importedNames.map op.unitTypeImport := by
  unfold Script.typeImports
  rw [imports_sourceUnit]
  simp [List.filterMap_append, List.filterMap_map, Function.comp_def, Import.type?,
    unitTypeImport]

theorem function?_sourceUnit (op : Operation) :
    op.sourceUnit.script.function? = some op.unitFunction := by
  have himports : ∀ i ∈ op.helperNames.map importOfHelper
      ++ op.importedNames.map (fun n => .imports (.type n (op.localName n) ("../types/" ++ n))),
      i.function? = none := by
    intro i hi
    rcases List.mem_append.mp hi with hi | hi <;> obtain ⟨n, _, rfl⟩ := List.mem_map.mp hi <;> rfl
  unfold Script.function?
  rw [items_sourceUnit, List.findSome?_append, List.findSome?_eq_none_iff.mpr himports]
  rfl

theorem typeAlias?_sourceUnit (op : Operation) :
    op.sourceUnit.script.typeAlias? Generated.response = some op.unitAlias := by
  unfold Script.typeAlias?
  rw [items_sourceUnit]
  simp [List.filterMap_append, List.filterMap_map, Function.comp_def, Item.typeAlias?,
    importOfHelper, List.filterMap_cons, unitAlias]

/-- The names that the unit binds at its top level. -/
theorem topLevelNames_sourceUnit (op : Operation) :
    op.sourceUnit.script.topLevelNames
      = op.helperNames ++ op.importedNames.map op.localName ++ [Generated.response, op.id] := by
  unfold Script.topLevelNames
  rw [items_sourceUnit]
  simp [Function.comp_def, Item.boundName, importOfHelper, unitAlias, unitFunction]

end Operation

end ClientGen
