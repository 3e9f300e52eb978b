import ClientGen.Layout.CommonJs
import ClientGen.Proofs.Operation.Hygiene
import ClientGen.Proofs.Operation.Signature

/-! # Erasure of types

  The source of an operation is written twice, and one of the two texts has no types. That text
  depends on nothing that is declared about types.

  * **`Script.untyped`**: a script without the imports of types, the aliases and the types of
    arguments. The text without types is the same for it (`script_untyped`).
  * **`SameOutline`**: two operations agree in everything but types, responses and texts for
    readers. Their units are equal once types are erased (`untyped_eq`).

  `textsAgree_of_sameOutline` puts these together, refusals included. -/

namespace ClientGen

/-! ## Scripts without types -/

def Argument.untyped (a : Argument) : Argument := { a with type := none }

def FunctionItem.untyped (f : FunctionItem) : FunctionItem :=
  { f with arguments := f.arguments.map Argument.untyped }

/-- An item without types; none if it is about types only. -/
def Item.untyped? : Item → Option Item
  | .imports (.value name source) => some (.imports (.value name source))
  | .imports (.type _ _ _) => none
  | .typeAlias _ => none
  | .function f => some (.function f.untyped)

def Script.untyped (s : Script) : Script := ⟨s.items.filterMap Item.untyped?⟩

namespace Layout.CommonJs

theorem functionText_untyped (f : FunctionItem) : functionText f.untyped = functionText f := by
  have hnames : f.untyped.arguments.map Argument.name = f.arguments.map Argument.name := by
    unfold FunctionItem.untyped
    rw [List.map_map]
    rfl
  unfold functionText
  rw [hnames]
  rfl

/-- Erasing the types of a script does not change its text without types. -/
theorem script_untyped (s : Script) : script s.untyped = script s := by
  -- Both the imports and the functions are picked item by item, and no item is picked otherwise
  -- once its types are erased.
  have himport : ∀ i : Item, (i.untyped?.bind fun j => j.import?.bind importText?)
      = i.import?.bind importText? := by
    intro i
    match i with
    | .imports (.value _ _) => rfl
    | .imports (.type _ _ _) => rfl
    | .typeAlias _ => rfl
    | .function _ => rfl
  have hfunction : ∀ i : Item, (i.untyped?.bind Item.function?).map functionText
      = i.function?.map functionText := by
    intro i
    match i with
    | .imports (.value _ _) => rfl
    | .imports (.type _ _ _) => rfl
    | .typeAlias _ => rfl
    | .function f => exact congrArg some (functionText_untyped f)
  have himports : s.untyped.imports.filterMap importText? = s.imports.filterMap importText? := by
    unfold Script.imports Script.untyped
    rw [List.filterMap_filterMap, List.filterMap_filterMap, List.filterMap_filterMap]
    exact List.filterMap_congr fun i _ => himport i
  have hfunctions : (s.untyped.items.filterMap Item.function?).map functionText
      = (s.items.filterMap Item.function?).map functionText := by
    unfold Script.untyped
    rw [List.filterMap_filterMap, List.map_filterMap, List.map_filterMap]
    exact List.filterMap_congr fun i _ => hfunction i
  unfold script
  rw [himports, hfunctions]

end Layout.CommonJs

/-- What is said about a parameter besides its type. -/
def Parameter.outline (p : Parameter) : String × Carrier × Bool := (p.name, p.carrier, p.required)

namespace Operation

/-! ## Units without types -/

/-- The unit of an operation, once types are erased: the helpers and the function. -/
theorem untyped_sourceUnit (op : Operation) :
    op.sourceUnit.script.untyped
      = ⟨op.helperNames.map importOfHelper
          ++ [.function ⟨op.id,
            (Generated.hostname :: (op.pathParameterNames ++ op.addedNames)).map fun n => ⟨n, none⟩,
            op.requestBody op.payloadParameter?.isSome⟩]⟩ := by
  -- Item by item: helpers stay, imports of types go, and the function loses its types.
  have hhelpers : (op.helperNames.map importOfHelper).filterMap Item.untyped?
      = op.helperNames.map importOfHelper := by
    rw [List.filterMap_map, ← List.filterMap_eq_map]
    rfl
  have htypes : (op.importedNames.map fun n =>
      Item.imports (.type n (op.localName n) ("../types/" ++ n))).filterMap Item.untyped? = [] := by
    rw [List.filterMap_map]
    exact List.filterMap_eq_nil_iff.mpr fun _ _ => rfl
  have hfunction : op.unitFunction.untyped = ⟨op.id,
      (Generated.hostname :: (op.pathParameterNames ++ op.addedNames)).map fun n => ⟨n, none⟩,
      op.requestBody op.payloadParameter?.isSome⟩ := by
    rw [← argumentNames_unitFunction, FunctionItem.argumentNames, List.map_map]
    rfl
  unfold Script.untyped
  rw [items_sourceUnit, List.filterMap_append, List.filterMap_append, hhelpers, htypes,
    List.append_nil, ← hfunction]
  rfl

/-- Two operations agree in their request and, entry by entry, in the names and carriers of their
    parameters and in which of them are required. Nothing is said about types, responses and texts
    for readers. -/
structure SameOutline (op op' : Operation) : Prop where
  id_eq : op'.id = op.id
  method_eq : op'.method = op.method
  path_eq : op'.path = op.path
  /-- Their parameters agree entry by entry. -/
  outlines_eq : op'.parameters.map Parameter.outline = op.parameters.map Parameter.outline

section

variable {op op' : Operation}

/-- Whatever is chosen by outline has the same outlines. -/
theorem SameOutline.filter_eq (same : op.SameOutline op') (q : Parameter → Bool)
    (r : String × Carrier × Bool → Bool) (hq : q = r ∘ Parameter.outline) :
    (op'.parameters.filter q).map Parameter.outline
      = (op.parameters.filter q).map Parameter.outline := by
  rw [hq, ← List.filter_map, ← List.filter_map, same.outlines_eq]

theorem SameOutline.payload_eq (same : op.SameOutline op') :
    op'.payloadParameters.isEmpty = op.payloadParameters.isEmpty := by
  have houtlines := same.filter_eq Parameter.isInPayload
    (fun outline => outline.2.1 = .formData || outline.2.1 = .body) rfl
  have hempty := congrArg List.isEmpty houtlines
  rwa [List.isEmpty_map, List.isEmpty_map] at hempty

theorem SameOutline.sameChecked (same : op.SameOutline op') : op.SameChecked op' where
  id_eq := same.id_eq
  path_eq := same.path_eq
  names_eq := by
    -- An outline tells whether the path must be filled with the parameter, and its name.
    have houtlines := same.filter_eq Parameter.fillsPath
      (fun outline => outline.2.1 = .path && outline.2.2) rfl
    have hnames := congrArg (List.map Prod.fst) houtlines
    rw [List.map_map, List.map_map] at hnames
    exact hnames
  hasQuery_eq := by
    have hany : ∀ o : Operation, o.hasQuery
        = (o.parameters.map Parameter.outline).any fun outline => outline.2.1 = .query := by
      intro o
      rw [List.any_map]
      rfl
    rw [hany, hany, same.outlines_eq]
  hasPayload_eq := same.payload_eq

/-- Once types are erased the units are equal. -/
theorem SameOutline.untyped_eq (same : op.SameOutline op') :
    op'.sourceUnit.script.untyped = op.sourceUnit.script.untyped := by
  have hquery := same.sameChecked.hasQuery_eq
  have hnames : op'.pathParameterNames = op.pathParameterNames := by
    unfold pathParameterNames
    rw [same.sameChecked.names_eq]
  have hpayload : op'.payloadParameter?.isSome = op.payloadParameter?.isSome := by
    rw [isSome_payloadParameter?, isSome_payloadParameter?, same.payload_eq]
  -- Nothing else goes into a script without types.
  rw [untyped_sourceUnit, untyped_sourceUnit]
  unfold helperNames addedNames requestBody address
  rw [hquery, hnames, hpayload, same.id_eq, same.method_eq, same.path_eq]

end

/-- **Types are erased**: two operations that agree in all but types, responses and texts for
    readers are refused for the same reason, or both become units, and the texts without types are
    equal character by character. The text without types of any script is that of the script without
    its types. -/
theorem textsAgree_of_sameOutline {op op' : Operation} (same : op.SameOutline op') :
    ((∃ e, op.compile.result = .error e ∧ op'.compile.result = .error e)
      ∨ ∃ u u', op.compile.result = .ok u ∧ op'.compile.result = .ok u'
        ∧ Layout.CommonJs.script u'.script = Layout.CommonJs.script u.script)
    ∧ ∀ s, Layout.CommonJs.script (Script.untyped s) = Layout.CommonJs.script s := by
  refine ⟨?_, Layout.CommonJs.script_untyped⟩
  rw [result_compile_eq, result_compile_eq, same.sameChecked.check_eq]
  cases op.check with
  | error e => exact .inl ⟨e, rfl, rfl⟩
  | ok _ =>
    refine .inr ⟨_, _, rfl, rfl, ?_⟩
    calc Layout.CommonJs.script op'.sourceUnit.script
        = Layout.CommonJs.script op'.sourceUnit.script.untyped :=
          (Layout.CommonJs.script_untyped _).symm
      _ = Layout.CommonJs.script op.sourceUnit.script.untyped := by rw [same.untyped_eq]
      _ = Layout.CommonJs.script op.sourceUnit.script := Layout.CommonJs.script_untyped _

/-- An operation with types that link to definitions, among them one named like the alias of the
    answer. -/
def typedRequest : Operation where
  id := "putPet"
  method := .put
  path := "/pets/\x7bpetId\x7d"
  parameters :=
    [{ name := "petId", carrier := .path, required := true, schema := some (.linkTo "Response") },
     { name := "dryRun", carrier := .query, kind := some "boolean" },
     { name := "pet", carrier := .body, schema := some (.linkTo "Pet") }]
  responses := [("200", { schema := some (.linkTo "Response") })]
  summary := some "Stores a pet"

def untypedRequest : Operation where
  id := "putPet"
  method := .put
  path := "/pets/\x7bpetId\x7d"
  parameters :=
    [{ name := "petId", carrier := .path, required := true },
     { name := "dryRun", carrier := .query },
     { name := "pet", carrier := .body, reference := some "#/parameters/pet" }]

/-- The units differ in their imports, and the texts without types do not. -/
theorem textsAgree_untypedRequest :
    typedRequest.SameOutline untypedRequest
      ∧ typedRequest.sourceUnit.dependencies = ["Response", "Pet"]
      ∧ untypedRequest.sourceUnit.dependencies = []
      ∧ ∃ u u', typedRequest.compile.result = .ok u ∧ untypedRequest.compile.result = .ok u'
        ∧ Layout.CommonJs.script u'.script = Layout.CommonJs.script u.script := by
  have same : typedRequest.SameOutline untypedRequest := ⟨rfl, rfl, rfl, rfl⟩
  have accepted : typedRequest.compile.result = .ok typedRequest.sourceUnit := rfl
  refine ⟨same, rfl, rfl, ?_⟩
  rcases (textsAgree_of_sameOutline same).1 with ⟨e, he, _⟩ | hunits
  · rw [accepted] at he
    cases he
  · exact hunits

end Operation

end ClientGen
