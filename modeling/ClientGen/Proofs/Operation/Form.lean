import ClientGen.Proofs.Operation.Hygiene
import ClientGen.Proofs.Operation.TypeLinks

/-! # The form of a unit

  The unit of an accepted operation has one form. Behind the imports stand the alias of the answer
  and the function, and nothing else. The arguments of the function are chosen from one list of
  parameters by four rules:

  * **The host** is always the first argument.
  * **Path parameters** follow as they were declared first; where they stand in the path does not
    matter.
  * **The query** is one argument, however many parameters it carries.
  * **The payload** is one argument, with the type of the first parameter that it carries.

  Types are those of the declared schemas, but for one name: links to a definition with the name of
  the alias are led elsewhere. `form_of_compile` says all of this of every accepted operation. -/

namespace ClientGen.Operation

/-! ## First declarations -/

/-- Of the parameters that were declared some are kept: for each name the first one declared with
    it, ordered by where the names appear first. -/
structure FirstDeclarations (declared kept : List Parameter) : Prop where
  /-- Each name is kept once, where it appears first. -/
  names_eq : kept.map Parameter.name = (declared.map Parameter.name).eraseDups
  /-- No parameter declared before one that is kept has its name. -/
  first : ∀ p ∈ kept, ∃ before after, declared = before ++ p :: after
    ∧ ∀ q ∈ before, q.name ≠ p.name

theorem firstDeclarations_emittedParameters (op : Operation) :
    FirstDeclarations op.pathParameters op.emittedParameters where
  names_eq := by
    rw [names_emittedParameters, pathParameterNames, Names.firstSeen_eq_eraseDups]
  first := by
    intro p hp
    -- A parameter is kept because it was found first under its name.
    obtain ⟨name, _, hfind⟩ := List.mem_filterMap.mp hp
    obtain ⟨hname, before, after, hsplit, hbefore⟩ := List.find?_eq_some_iff_append.mp hfind
    obtain rfl : p.name = name := by simpa using hname
    refine ⟨before, after, hsplit, ?_⟩
    intro q hq
    simpa using hbefore q hq

/-! ## The parts of the unit -/

theorem payloadParameter?_eq (op : Operation) :
    op.payloadParameter? = op.parameters.find? Parameter.isInPayload := List.head?_filter

theorem queryArguments_eq (op : Operation) :
    op.queryArguments
      = if ∃ p ∈ op.parameters, p.carrier = .query then [⟨Generated.query, some .object⟩]
        else [] := by
  unfold queryArguments
  simp only [hasQuery_iff]

/-- The local name of a definition is its name, unless that is the name of the alias. -/
theorem localName_eq_replaceName (op : Operation) :
    op.localName
      = TypeTerm.replaceName Generated.response (op.localName Generated.response) := by
  funext n
  unfold TypeTerm.replaceName
  by_cases h : n = Generated.response
  · rw [if_pos h, h]
  · rw [if_neg h, localName_of_ne h]

/-- Nothing else is linked under the name that is put in the place of the name of the alias. -/
theorem localName_response_not_mem (op : Operation) :
    op.localName Generated.response ∉ op.linkedNames := by
  rw [← mem_importedNames]
  -- If nothing is linked under the name of the alias, that name itself is put in its place.
  by_cases h : Generated.response ∈ op.importedNames
  · exact (localName_response h).1
  · have hname : op.localName Generated.response = Generated.response := by
      simp [localName, responseImport?, h]
    rwa [hname]

/-- The items of the unit that are no imports. -/
theorem items_eq_imports_append (op : Operation) :
    op.sourceUnit.script.items
      = op.sourceUnit.script.imports.map .imports
        ++ [.typeAlias op.unitAlias, .function op.unitFunction] := by
  rw [items_sourceUnit, imports_sourceUnit, List.map_append, List.map_map, List.map_map]
  rfl

/-! ## The form -/

/-- The arguments that an operation calls for, with types as translated: the host, the path
    arguments, which are those of the parameters in `kept`, the query and the payload. A type that
    is not declared is missing. -/
def declaredArguments (op : Operation) (kept : List Parameter) : List Argument :=
  [⟨Generated.hostname, some .string⟩]
    ++ kept.map (fun p => ⟨p.name, p.ownType?⟩)
    ++ (if ∃ p ∈ op.parameters, p.carrier = .query then [⟨Generated.query, some .object⟩] else [])
    ++ (op.parameters.find? Parameter.isInPayload).toList.map fun p =>
        ⟨Generated.data, p.ownType?⟩

/-- The members that describe the request: the method, the address and, exactly if the payload is an
    argument, the payload. -/
def requestMembers (op : Operation) : List (String × Expr) :=
  [("method", .text op.method.name), ("url", op.address)]
    ++ (op.parameters.find? Parameter.isInPayload).toList.map fun _ =>
        (Generated.data, .ident Generated.data)

/-- The form of a function `f` with the alias `a` beside it. The path arguments are those of the
    parameters in `kept`, and links to a definition with the name of the alias lead to `fresh`. -/
structure Form (op : Operation) (f : FunctionItem) (a : TypeAlias) (kept : List Parameter)
    (fresh : String) : Prop where
  /-- The path arguments are those of the first declarations. -/
  kept_first : FirstDeclarations op.pathParameters kept
  /-- No declared type links to the fresh name, so no two links become one. -/
  fresh_apart : fresh ∉ op.linkedNames
  /-- The arguments are those that the operation calls for. -/
  arguments_eq : f.arguments = (op.declaredArguments kept).map
    (Argument.mapLinks (TypeTerm.replaceName Generated.response fresh))
  /-- The body returns a new request, made from its description and nothing else. -/
  body_eq : f.body
    = [.result (.construct Generated.request [.object op.requestMembers])]
  alias_exported : a.name = Generated.response ∧ a.exported = true
  /-- It stands for the type of the answer, or for every type if none is declared. -/
  alias_type : a.type = op.plainAnswer.mapLinks (TypeTerm.replaceName Generated.response fresh)

theorem plainArguments_eq_declaredArguments (op : Operation) :
    op.plainArguments = op.declaredArguments op.emittedParameters := by
  unfold plainArguments declaredArguments
  rw [queryArguments_eq, payloadParameter?_eq]

theorem requestBody_eq (op : Operation) :
    op.requestBody op.payloadParameter?.isSome
      = [.result (.construct Generated.request [.object op.requestMembers])] := by
  unfold requestBody requestMembers
  rw [← payloadParameter?_eq]
  cases op.payloadParameter? <;> rfl

theorem form_sourceUnit (op : Operation) :
    op.Form op.unitFunction op.unitAlias op.emittedParameters
      (op.localName Generated.response) where
  kept_first := op.firstDeclarations_emittedParameters
  fresh_apart := op.localName_response_not_mem
  arguments_eq := by
    rw [← localName_eq_replaceName, ← plainArguments_eq_declaredArguments]
    rfl
  body_eq := op.requestBody_eq
  alias_exported := ⟨rfl, rfl⟩
  alias_type := by
    rw [← localName_eq_replaceName]
    rfl

/-- **The form of a unit**: behind its imports the unit of an accepted operation holds an alias and
    a function of the form that the operation gives to them, and nothing else. -/
theorem form_of_compile {op : Operation} {u : SourceUnit} (accepted : op.compile.result = .ok u) :
    ∃ f a kept fresh,
      u.script.items = u.script.imports.map .imports ++ [.typeAlias a, .function f]
        ∧ op.Form f a kept fresh := by
  obtain ⟨_, _, rfl⟩ := compile_eq_ok_iff.mp accepted
  exact ⟨op.unitFunction, op.unitAlias, op.emittedParameters, op.localName Generated.response,
    op.items_eq_imports_append, op.form_sourceUnit⟩

/-- An operation whose parameters are declared in another order than they have in the path, some of
    them more than once. -/
def scatteredParameters : Operation where
  id := "putTag"
  method := .put
  path := "/pets/\x7bpetId\x7d/tags/\x7btag\x7d"
  parameters :=
    [{ name := "photo", carrier := .formData },
     { name := "tag", carrier := .path, required := true, schema := some (.linkTo "Response") },
     { name := "dryRun", carrier := .query, kind := some "boolean" },
     { name := "petId", carrier := .path, required := true },
     { name := "tag", carrier := .path, required := true, kind := some "string" },
     { name := "pet", carrier := .body, schema := some (.linkTo "Pet") },
     { name := "force", carrier := .query }]

theorem form_scatteredParameters :
    ∃ u, scatteredParameters.compile.result = .ok u
      ∧ u.script.function?.map (fun f => f.arguments.map Argument.name)
        = some ["hostname", "tag", "petId", "query", "data"]
      ∧ u.dependencies = ["Response"]
      ∧ ∃ f a kept fresh,
        u.script.items = u.script.imports.map .imports ++ [.typeAlias a, .function f]
          ∧ scatteredParameters.Form f a kept fresh :=
  ⟨_, rfl, rfl, rfl, form_of_compile rfl⟩

end ClientGen.Operation
