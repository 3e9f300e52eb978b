import ClientGen.Package
import ClientGen.Proofs.Names.FirstSeen
import ClientGen.Proofs.Schema.Typing
import ClientGen.Proofs.Script.Names

/-! # The unit of a definition

  A definition becomes an alias for its type, in a file of its own. The links of the type lead to
  other definitions, each in a file beside it, and perhaps to the definition itself.

  * **Other definitions** are imported, each once and under its own name.
  * **The definition itself** is the alias. It counts as a dependency but is never imported.

  So each link has one item that it leads to, and nothing is imported in vain
  (`exactImports_definitionUnit`). -/

namespace ClientGen.Package

/-! ## Items -/

/-- The definitions other than itself that a definition links to, each once, in the order met. -/
def siblings (name : String) (schema : Schema) : List String :=
  (Names.firstSeen schema.typing.dependencies).filter fun other => other ≠ name

variable {name : String} {schema : Schema}

theorem mem_siblings {n : String} :
    n ∈ siblings name schema ↔ n ∈ schema.typing.type.links ∧ n ≠ name := by
  rw [siblings, Schema.dependencies_typing, List.mem_filter, Names.mem_firstSeen,
    decide_eq_true_iff]

theorem imports_definitionUnit (name : String) (schema : Schema) :
    (definitionUnit name schema).script.imports
      = (siblings name schema).map fun other => .type other other ("./" ++ other) := by
  unfold Script.imports definitionUnit siblings
  simp [List.filterMap_append, List.filterMap_map, Function.comp_def, Item.import?,
    importOfSibling, List.filterMap_cons]

theorem typeImports_definitionUnit (name : String) (schema : Schema) :
    (definitionUnit name schema).script.typeImports
      = (siblings name schema).map fun other => ⟨other, other, "./" ++ other⟩ := by
  unfold Script.typeImports
  rw [imports_definitionUnit, List.filterMap_map]
  simp only [Function.comp_def, Import.type?, List.filterMap_eq_map']

theorem topLevelNames_definitionUnit (name : String) (schema : Schema) :
    (definitionUnit name schema).script.topLevelNames = siblings name schema ++ [name] := by
  have hnames : Item.boundName ∘ importOfSibling = id := rfl
  unfold Script.topLevelNames definitionUnit siblings
  rw [List.map_append, List.map_map, hnames, List.map_id]
  rfl

/-- The definition itself is left out of the imports, so its name is bound once. -/
theorem nodup_topLevelNames (name : String) (schema : Schema) :
    (definitionUnit name schema).script.topLevelNames.Nodup := by
  have hsiblings : (siblings name schema).Nodup := (Names.nodup_firstSeen _).filter _
  rw [topLevelNames_definitionUnit, List.nodup_append]
  refine ⟨hsiblings, List.nodup_singleton name, ?_⟩
  intro n hn other hother
  rw [List.mem_singleton.mp hother]
  exact (mem_siblings.mp hn).2

/-! ## Exact imports -/

/-- The unit of a definition, with the alias `a`, imports exactly the definitions that it needs. -/
structure ExactImports (name : String) (schema : Schema) (u : SourceUnit) (a : TypeAlias) :
    Prop where
  alias_name : a.name = name
  alias_type : a.type = schema.typing.type
  alias_exported : a.exported = true
  /-- The unit depends on what the alias links to, ordered by where it is met first. The definition
      itself is among its dependencies if it links to itself. -/
  dependencies_eq : u.dependencies = a.type.links.eraseDups
  dependencies_nodup : u.dependencies.Nodup
  /-- The items are one import for each dependency but the definition itself, in this order, and
      then the alias. A definition is imported under its own name from the file beside. -/
  items_eq : u.script.items
    = (u.dependencies.filter fun n => n ≠ name).map (fun n => .imports (.type n n ("./" ++ n)))
      ++ [.typeAlias a]
  names_nodup : u.script.topLevelNames.Nodup
  /-- Every link leads to one item. -/
  links_resolved : ∀ n ∈ a.type.links, ∃! item, item ∈ u.script.items ∧ item.boundName = n
  /-- A link to the definition itself leads to the alias. -/
  own_link : ∀ item ∈ u.script.items, item.boundName = name → item = .typeAlias a
  /-- Every import has a link that leads to it. -/
  imports_used : ∀ i ∈ u.script.typeImports, i.localName ∈ a.type.links

/-- **Exact imports**: the unit of a definition imports what its type links to and nothing else,
    also where the type links to the definition itself or to one definition many times. -/
theorem exactImports_definitionUnit (name : String) (schema : Schema) :
    ExactImports name schema (definitionUnit name schema) ⟨name, schema.typing.type, true⟩ where
  alias_name := rfl
  alias_type := rfl
  alias_exported := rfl
  dependencies_eq := by
    rw [← Schema.dependencies_typing]
    exact Names.firstSeen_eq_eraseDups _
  dependencies_nodup := Names.nodup_firstSeen _
  items_eq := rfl
  names_nodup := nodup_topLevelNames name schema
  links_resolved := by
    intro n hn
    apply Script.existsUnique_item (nodup_topLevelNames name schema)
    rw [topLevelNames_definitionUnit, List.mem_append, List.mem_singleton, mem_siblings]
    by_cases hself : n = name
    · exact Or.inr hself
    · exact Or.inl ⟨hn, hself⟩
  own_link := by
    intro item hitem hname
    -- The alias is an item with this name, and there is no other.
    refine List.inj_on_of_nodup_map (nodup_topLevelNames name schema) hitem ?_ hname
    exact List.mem_append_right _ (List.mem_singleton_self _)
  imports_used := by
    rw [typeImports_definitionUnit]
    intro i hi
    obtain ⟨n, hn, rfl⟩ := List.mem_map.mp hi
    exact (mem_siblings.mp hn).1

/-- A definition that links to itself, and twice to another one. -/
example : (definitionUnit "Node"
    { kind := some "object"
      properties := some [("next", Schema.linkTo "Node"), ("label", Schema.linkTo "Label"),
        ("alt", Schema.linkTo "Label")] }).script.topLevelNames = ["Label", "Node"] := by decide

end ClientGen.Package
