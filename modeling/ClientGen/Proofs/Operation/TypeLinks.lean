import ClientGen.Proofs.Operation.FreshImport
import ClientGen.Proofs.Operation.Unit

/-! # Type links of a unit

  A unit refers to a definition by the local name of its import. For all but one name that is the
  name of the definition; a definition with the name of the alias gets a fresh one. The fresh name
  is no imported name and not the name of the alias, so local names are distinct
  (`localName_injective`), and going back from local names to definitions gives the types as they
  were translated.

  * **`links_unit`**: the links of a unit are the linked definitions, each by its local name.
  * **`faithfulLinks_of_compile`**: no link of an accepted operation is captured, merged or lost. -/

namespace ClientGen

theorem Argument.mapLinks_inverse {f g : String → String} {a : Argument}
    (h : ∀ t, a.type = some t → ∀ n ∈ t.links, g (f n) = n) :
    (a.mapLinks f).mapLinks g = a := by
  obtain ⟨name, type⟩ := a
  cases type with
  | none => rfl
  | some t =>
    have ht := TypeTerm.mapLinks_inverse (h t rfl)
    simp [Argument.mapLinks, ht]

namespace Operation

/-! ## Local names -/

/-- The fresh name is neither that of an import nor that of the alias. -/
theorem localName_response {op : Operation} (h : Generated.response ∈ op.importedNames) :
    op.localName Generated.response ∉ op.importedNames
      ∧ op.localName Generated.response ≠ Generated.response := by
  obtain ⟨j, _, heq, hfresh, _⟩ := responseImport?_spec h
  have hlocal : op.localName Generated.response = candidate j := by simp [localName, heq]
  rw [hlocal]
  exact ⟨hfresh, candidate_ne_response j⟩

theorem localName_ne_response {op : Operation} {n : String} (h : n ∈ op.importedNames) :
    op.localName n ≠ Generated.response := by
  by_cases hn : n = Generated.response
  · subst hn
    exact (localName_response h).2
  · rwa [localName_of_ne hn]

theorem localName_injective {op : Operation} {m n : String} (hm : m ∈ op.importedNames)
    (hn : n ∈ op.importedNames) (h : op.localName m = op.localName n) : m = n := by
  by_cases hm' : m = Generated.response
  · by_cases hn' : n = Generated.response
    · rw [hm', hn']
    · -- The fresh name would be the imported name `n`.
      subst hm'
      rw [localName_of_ne hn'] at h
      exact absurd (h ▸ hn) (localName_response hm).1
  · by_cases hn' : n = Generated.response
    · subst hn'
      rw [localName_of_ne hm'] at h
      exact absurd (h ▸ hm) (localName_response hn).1
    · rwa [localName_of_ne hm', localName_of_ne hn'] at h

theorem nodup_localNames (op : Operation) : (op.importedNames.map op.localName).Nodup := by
  refine List.Nodup.map_on ?_ op.nodup_importedNames
  intro m hm n hn h
  exact localName_injective hm hn h

theorem response_not_mem_localNames (op : Operation) :
    Generated.response ∉ op.importedNames.map op.localName := by
  intro hmem
  obtain ⟨n, hn, h⟩ := List.mem_map.mp hmem
  exact localName_ne_response hn h

/-- Two imports with one local name are one import. -/
theorem unitTypeImport_unique {op : Operation} {i j : TypeImport}
    (hi : i ∈ op.importedNames.map op.unitTypeImport)
    (hj : j ∈ op.importedNames.map op.unitTypeImport) (h : j.localName = i.localName) : j = i := by
  obtain ⟨m, hm, rfl⟩ := List.mem_map.mp hi
  obtain ⟨n, hn, rfl⟩ := List.mem_map.mp hj
  rw [localName_injective hn hm h]

/-- Going back from a local name leads to the definition. -/
theorem importedName_localName {op : Operation} {n : String} (h : n ∈ op.importedNames) :
    importedName (op.importedNames.map op.unitTypeImport) (op.localName n) = n := by
  have hmem : op.unitTypeImport n ∈ op.importedNames.map op.unitTypeImport :=
    List.mem_map_of_mem h
  exact importedName_eq hmem fun j hj hlocal => unitTypeImport_unique hmem hj hlocal

/-! ## Links -/

/-- The types of parameters link to what their schemas depend on. -/
theorem links_arguments (name : Parameter → String) (parameters : List Parameter) :
    ((parameters.map fun p => (⟨name p, p.ownType?⟩ : Argument)).filterMap Argument.type).flatMap
        TypeTerm.links
      = (parameters.filterMap Parameter.ownSchema?).flatMap
          fun schema => schema.typing.dependencies := by
  induction parameters with
  | nil => rfl
  | cons p rest ih =>
    cases hschema : p.ownSchema? with
    | none => simpa [Parameter.ownType?, hschema] using ih
    | some schema => simpa [Parameter.ownType?, hschema, Schema.dependencies_typing] using ih

theorem links_plainAnswer (op : Operation) :
    op.plainAnswer.links
      = op.answerSchema?.toList.flatMap fun schema => schema.typing.dependencies := by
  unfold plainAnswer
  cases op.answerSchema? with
  | none => rfl
  | some schema => simp [Schema.dependencies_typing]

/-- The links of the types as translated are the linked definitions, in this order. -/
theorem links_plain (op : Operation) :
    (op.plainArguments.filterMap Argument.type).flatMap TypeTerm.links ++ op.plainAnswer.links
      = op.linkedNames := by
  have hquery : (op.queryArguments.filterMap Argument.type).flatMap TypeTerm.links = [] := by
    unfold queryArguments
    cases op.hasQuery <;> rfl
  have hpayload : (op.payloadParameter?.bind Parameter.ownSchema?).toList
      = op.payloadParameter?.toList.filterMap Parameter.ownSchema? := by
    cases op.payloadParameter? with
    | none => rfl
    | some p => cases hschema : p.ownSchema? <;> simp [hschema]
  simp only [plainArguments, List.filterMap_append, List.flatMap_append, links_arguments, hquery,
    links_plainAnswer, linkedNames, declaredSchemas, hpayload]
  simp [TypeTerm.links]

/-- The links of a unit are the linked definitions, each by its local name. -/
theorem links_unit (op : Operation) :
    op.unitFunction.links ++ op.unitAlias.type.links = op.linkedNames.map op.localName := by
  -- Undeclared arguments have no links on either side.
  have harguments : ∀ arguments : List Argument,
      ((arguments.map (Argument.mapLinks op.localName)).filterMap Argument.type).flatMap
          TypeTerm.links
        = ((arguments.filterMap Argument.type).flatMap TypeTerm.links).map op.localName := by
    intro arguments
    induction arguments with
    | nil => rfl
    | cons a rest ih =>
      obtain ⟨name, type⟩ := a
      cases type with
      | none => simpa [Argument.mapLinks] using ih
      | some t => simpa [Argument.mapLinks, TypeTerm.links_mapLinks] using ih
  have hfunction : op.unitFunction.links
      = ((op.plainArguments.filterMap Argument.type).flatMap TypeTerm.links).map op.localName :=
    harguments op.plainArguments
  have halias : op.unitAlias.type.links = op.plainAnswer.links.map op.localName :=
    TypeTerm.links_mapLinks op.localName op.plainAnswer
  rw [hfunction, halias, ← List.map_append, links_plain]

/-! ## Faithful links -/

/-- The links of a unit with function `f` and alias `a` lead to the definitions that the operation
    links to, whatever these are called. -/
structure FaithfulLinks (op : Operation) (u : SourceUnit) (f : FunctionItem) (a : TypeAlias) :
    Prop where
  /-- The unit depends on the linked definitions, ordered by where they are met first. -/
  dependencies_eq : u.dependencies = op.linkedNames.eraseDups
  dependencies_nodup : u.dependencies.Nodup
  /-- For each of them there is one import of a type, in the same order. -/
  import_names : u.script.typeImports.map TypeImport.name = u.dependencies
  /-- An import takes a definition from the file of that definition. -/
  import_sources : ∀ i ∈ u.script.typeImports, i.source = "../types/" ++ i.name
  locals_nodup : (u.script.typeImports.map TypeImport.localName).Nodup
  /-- The name of the alias is no local name. -/
  locals_apart : Generated.response ∉ u.script.typeImports.map TypeImport.localName
  /-- Every link of an argument or of the alias is the local name of one import. -/
  links_resolved : ∀ n ∈ f.links ++ a.type.links,
    ∃! i, i ∈ u.script.typeImports ∧ i.localName = n
  /-- Every import is used by such a link. -/
  imports_used : ∀ i ∈ u.script.typeImports, i.localName ∈ f.links ++ a.type.links
  /-- With the imported names put back, the arguments are as translated. -/
  arguments_restored :
    f.arguments.map (Argument.mapLinks (importedName u.script.typeImports)) = op.plainArguments
  /-- With the imported names put back, the answer is as translated. -/
  answer_restored : a.type.mapLinks (importedName u.script.typeImports) = op.plainAnswer

theorem mem_links_unit {op : Operation} {n : String} :
    n ∈ op.unitFunction.links ++ op.unitAlias.type.links
      ↔ ∃ m ∈ op.importedNames, op.localName m = n := by
  rw [links_unit, List.mem_map]
  constructor
  · rintro ⟨m, hm, rfl⟩
    exact ⟨m, mem_importedNames.mpr hm, rfl⟩
  · rintro ⟨m, hm, rfl⟩
    exact ⟨m, mem_importedNames.mp hm, rfl⟩

/-- Putting the imported names back undoes the renaming of every argument. -/
theorem arguments_restored_unit (op : Operation) :
    op.unitFunction.arguments.map
        (Argument.mapLinks (importedName (op.importedNames.map op.unitTypeImport)))
      = op.plainArguments := by
  unfold unitFunction
  rw [List.map_map]
  conv_rhs => rw [← List.map_id op.plainArguments]
  apply List.map_congr_left
  intro b hb
  apply Argument.mapLinks_inverse
  -- Every link of an argument is imported, so it has a local name to come back from.
  intro t ht n hn
  apply importedName_localName
  rw [mem_importedNames, ← links_plain]
  have htype : t ∈ op.plainArguments.filterMap Argument.type := List.mem_filterMap.mpr ⟨b, hb, ht⟩
  exact List.mem_append.mpr (Or.inl (List.mem_flatMap.mpr ⟨t, htype, hn⟩))

theorem answer_restored_unit (op : Operation) :
    op.unitAlias.type.mapLinks (importedName (op.importedNames.map op.unitTypeImport))
      = op.plainAnswer := by
  apply TypeTerm.mapLinks_inverse
  intro n hn
  apply importedName_localName
  rw [mem_importedNames, ← links_plain]
  exact List.mem_append.mpr (Or.inr hn)

theorem faithfulLinks_sourceUnit (op : Operation) :
    FaithfulLinks op op.sourceUnit op.unitFunction op.unitAlias where
  dependencies_eq := Names.firstSeen_eq_eraseDups op.linkedNames
  dependencies_nodup := op.nodup_importedNames
  import_names := by
    rw [typeImports_sourceUnit, List.map_map]
    exact List.map_id op.importedNames
  import_sources := by
    rw [typeImports_sourceUnit]
    intro i hi
    obtain ⟨n, _, rfl⟩ := List.mem_map.mp hi
    rfl
  locals_nodup := by
    rw [typeImports_sourceUnit, List.map_map]
    exact op.nodup_localNames
  locals_apart := by
    rw [typeImports_sourceUnit, List.map_map]
    exact op.response_not_mem_localNames
  links_resolved := by
    rw [typeImports_sourceUnit]
    intro n hn
    obtain ⟨m, hm, rfl⟩ := mem_links_unit.mp hn
    have hmem : op.unitTypeImport m ∈ op.importedNames.map op.unitTypeImport :=
      List.mem_map_of_mem hm
    refine ⟨op.unitTypeImport m, ⟨hmem, rfl⟩, ?_⟩
    rintro j ⟨hj, hlocal⟩
    exact unitTypeImport_unique hmem hj hlocal
  imports_used := by
    rw [typeImports_sourceUnit]
    intro i hi
    obtain ⟨m, hm, rfl⟩ := List.mem_map.mp hi
    exact mem_links_unit.mpr ⟨m, hm, rfl⟩
  arguments_restored := by
    rw [typeImports_sourceUnit]
    exact op.arguments_restored_unit
  answer_restored := by
    rw [typeImports_sourceUnit]
    exact op.answer_restored_unit

/-- **Faithful links**: in the unit of an accepted operation no link is captured, merged or lost,
    also where a definition has the name of the alias and others have the names it could be moved
    to. -/
theorem faithfulLinks_of_compile {op : Operation} {u : SourceUnit}
    (accepted : op.compile.result = .ok u) :
    ∃ f a, u.script.function? = some f ∧ u.script.typeAlias? Generated.response = some a
      ∧ FaithfulLinks op u f a := by
  obtain ⟨_, _, rfl⟩ := compile_eq_ok_iff.mp accepted
  exact ⟨op.unitFunction, op.unitAlias, op.function?_sourceUnit, op.typeAlias?_sourceUnit,
    op.faithfulLinks_sourceUnit⟩

/-- A schema that links to `Response` twice, and to a name that it could be moved to. -/
def crowdedAnswer : Schema where
  kind := some "object"
  properties := some
    [("old", Schema.linkTo "ResponseType2"),
     ("all", { kind := some "array", items := some (Schema.linkTo "Response") }),
     ("new", Schema.linkTo "Response")]
  required := ["new"]

/-- An operation whose types link to `Response` and to the first names that it could be moved to. -/
def crowdedLinks : Operation where
  id := "replacePet"
  path := "/pets/\x7bpetId\x7d"
  parameters :=
    [{ name := "petId", carrier := .path, required := true,
       schema := some (Schema.linkTo "ResponseType") },
     { name := "petId", carrier := .path, required := true, kind := some "string" },
     { name := "pet", carrier := .body, schema := some (Schema.linkTo "Response") }]
  responses := [("200", { schema := some crowdedAnswer })]

theorem faithfulLinks_crowdedLinks :
    ∃ u, crowdedLinks.compile.result = .ok u
      ∧ u.script.typeImports.map TypeImport.localName
        = ["ResponseType", "ResponseType3", "ResponseType2"]
      ∧ ∃ f a, u.script.function? = some f ∧ u.script.typeAlias? Generated.response = some a
        ∧ FaithfulLinks crowdedLinks u f a :=
  ⟨_, rfl, by decide, faithfulLinks_of_compile rfl⟩

end Operation

end ClientGen
