import Mathlib.Logic.Relation
import ClientGen.Proofs.Operation.Hygiene
import ClientGen.Proofs.Operation.References

/-! # What an operation depends on

  Of all that an operation says, little reaches its unit: the request and the type of the answer,
  the names and declared types of the required path parameters in order, whether there is a query,
  and the declared type of the first payload. These are the *inputs* of the operation.

  * **`SameInputs`**: two operations have the same inputs. What comes of them is then the same, be
    it a unit or a defect.
  * **`Edit`**: an operation gets one more parameter that makes no difference where it stands, other
    responses beside that of success, or other texts for readers. Edits keep the inputs.

  `compile_noninterference` says both of any two operations, and of any number of edits made and
  taken back. -/

namespace ClientGen

/-- What a unit takes from a parameter: its name and its declared type. -/
def Parameter.declaration (p : Parameter) : String × Option Schema := (p.name, p.ownSchema?)

namespace Operation

/-! ## Inputs -/

/-- Two operations have the same inputs. -/
structure SameInputs (op op' : Operation) : Prop extends SameRequest op op' where
  /-- Their required path parameters have the same names and declared types, in the same order. -/
  declarations_eq :
    op'.pathParameters.map Parameter.declaration = op.pathParameters.map Parameter.declaration
  hasQuery_eq : op'.hasQuery = op.hasQuery
  /-- Their first payloads have one declared type, or neither has a payload. -/
  payload_eq :
    op'.payloadParameter?.map Parameter.ownSchema? = op.payloadParameter?.map Parameter.ownSchema?

/-- The first of the declarations with each name. -/
def firstDeclared (declarations : List (String × Option Schema)) :
    List (String × Option Schema) :=
  (Names.firstSeen (declarations.map Prod.fst)).filterMap fun name =>
    declarations.find? fun d => d.1 = name

theorem declarations_emittedParameters (op : Operation) :
    op.emittedParameters.map Parameter.declaration
      = firstDeclared (op.pathParameters.map Parameter.declaration) := by
  have hnames : (op.pathParameters.map Parameter.declaration).map Prod.fst
      = op.pathParameters.map Parameter.name := List.map_map
  unfold emittedParameters firstDeclared pathParameterNames
  rw [hnames, List.map_filterMap]
  congr 1
  funext name
  rw [List.find?_map]
  rfl

/-- The signature is made from the inputs alone. -/
theorem signature_of_inputs (op : Operation) :
    op.signature =
      { path := (firstDeclared (op.pathParameters.map Parameter.declaration)).map
          fun d => ⟨d.1, d.2.map fun schema => schema.typing.type⟩,
        hasQuery := op.hasQuery,
        payload := (op.payloadParameter?.map Parameter.ownSchema?).map
          fun declared => declared.map fun schema => schema.typing.type } := by
  rw [← declarations_emittedParameters, List.map_map, Option.map_map]
  rfl

section

variable {op op' : Operation}

theorem SameInputs.sameChecked (same : op.SameInputs op') : op.SameChecked op' where
  id_eq := same.id_eq
  path_eq := same.path_eq
  names_eq := by
    have hnames := congrArg (List.map Prod.fst) same.declarations_eq
    rw [List.map_map, List.map_map] at hnames
    exact hnames
  hasQuery_eq := same.hasQuery_eq
  hasPayload_eq := by
    have hsome := congrArg Option.isSome same.payload_eq
    rw [Option.isSome_map, Option.isSome_map] at hsome
    rwa [isSome_payloadParameter?, isSome_payloadParameter?, Bool.not_inj_iff] at hsome

theorem SameInputs.signature_eq (same : op.SameInputs op') : op'.signature = op.signature := by
  rw [signature_of_inputs, signature_of_inputs, same.declarations_eq, same.hasQuery_eq,
    same.payload_eq]

/-- The same comes of operations with the same inputs: the checks say the same, and the units are
    equal if nothing is found. -/
theorem SameInputs.result_eq (same : op.SameInputs op') :
    op'.compile.result = op.compile.result := by
  rw [result_compile_eq_iff same.toSameRequest]
  exact ⟨same.sameChecked.check_eq, fun _ => same.signature_eq⟩

end

/-! ## Edits -/

/-- A parameter makes no difference between others. -/
inductive Dispensable (before : List Parameter) (p : Parameter) (after : List Parameter) :
    Prop where
  /-- It plays no part in the request: it is in a header, an optional part of the path, or nowhere
      that matters. -/
  | idle : p.isIdle = true → Dispensable before p after
  /-- It is in the query, and so is another one. -/
  | furtherQuery :
      p.carrier = .query → (∃ q ∈ before ++ after, q.carrier = .query) → Dispensable before p after
  /-- It is in the payload, and so is one before it. -/
  | furtherPayload :
      p.isInPayload = true → (∃ q ∈ before, q.isInPayload = true) → Dispensable before p after

/-- One edit of an operation that makes no difference. -/
inductive Edit (op : Operation) : Operation → Prop where
  /-- A parameter is put in that makes no difference where it stands. -/
  | parameter {before after : List Parameter} {p : Parameter} :
      op.parameters = before ++ after → Dispensable before p after →
      Edit op { op with parameters := before ++ p :: after }
  /-- The responses are replaced by others with the same type of answer to a successful request. -/
  | responses {responses : List (String × Response)} :
      answerSchema? { op with responses := responses } = op.answerSchema? →
      Edit op { op with responses := responses }
  | texts {summary description : Option String} :
      Edit op { op with summary := summary, description := description }

section

variable {before after : List Parameter} {p : Parameter}

theorem Dispensable.fillsPath_eq (h : Dispensable before p after) : p.fillsPath = false := by
  cases h with
  | idle hidle => exact (Parameter.isIdle_iff.mp hidle).1
  | furtherQuery hquery => simp [Parameter.fillsPath, hquery]
  | furtherPayload hpayload =>
    unfold Parameter.isInPayload at hpayload
    unfold Parameter.fillsPath
    cases hcarrier : p.carrier <;> simp_all

/-- The same parameters fill the path. -/
theorem Dispensable.pathParameters_eq (h : Dispensable before p after) :
    (before ++ p :: after).filter Parameter.fillsPath
      = (before ++ after).filter Parameter.fillsPath := by
  have hp : ¬ p.fillsPath = true := by
    rw [h.fillsPath_eq]
    exact Bool.false_ne_true
  rw [List.filter_append, List.filter_cons_of_neg hp, ← List.filter_append]

/-- There is a query if there was one, and none otherwise. -/
theorem Dispensable.hasQuery_eq (h : Dispensable before p after) :
    ((before ++ p :: after).any fun q => q.carrier = .query)
      = (before ++ after).any fun q => q.carrier = .query := by
  -- Where the parameter stands does not matter for a question about any of them.
  have hperm : (before ++ p :: after).Perm (p :: (before ++ after)) := List.perm_middle
  rw [hperm.any_eq, List.any_cons]
  cases h with
  | idle hidle => simp [(Parameter.isIdle_iff.mp hidle).2.1]
  | furtherQuery hquery hother =>
    have hany : ((before ++ after).any fun q => q.carrier = .query) = true := by
      simpa only [List.any_eq_true, decide_eq_true_eq] using hother
    rw [hany, Bool.or_true]
  | furtherPayload hpayload =>
    have hp : p.carrier ≠ .query := by
      intro hquery
      simp [Parameter.isInPayload, hquery] at hpayload
    simp [hp]

/-- The first payload stays the first. -/
theorem Dispensable.payload_eq (h : Dispensable before p after) :
    ((before ++ p :: after).filter Parameter.isInPayload).head?
      = ((before ++ after).filter Parameter.isInPayload).head? := by
  have hskip : p.isInPayload = false → ((before ++ p :: after).filter Parameter.isInPayload)
      = (before ++ after).filter Parameter.isInPayload := by
    intro hp
    rw [List.filter_append, List.filter_cons_of_neg (by simp [hp]), ← List.filter_append]
  cases h with
  | idle hidle => rw [hskip (Parameter.isIdle_iff.mp hidle).2.2]
  | furtherQuery hquery => rw [hskip (by simp [Parameter.isInPayload, hquery])]
  | furtherPayload hpayload hother =>
    -- What is put in stands behind a payload, so the head lies in front of it.
    obtain ⟨q, hq, hfirst⟩ := hother
    have hne : before.filter Parameter.isInPayload ≠ [] :=
      List.ne_nil_of_mem (List.mem_filter.mpr ⟨hq, hfirst⟩)
    rw [List.filter_append, List.filter_append, List.head?_append_of_ne_nil _ hne,
      List.head?_append_of_ne_nil _ hne]

end

/-- An edit keeps the inputs. -/
theorem Edit.sameInputs {op op' : Operation} (h : op.Edit op') : op.SameInputs op' := by
  cases h with
  | @parameter before after p hsplit hp =>
    -- Each of the three inputs is one of the whole list, without the parameter that was put in.
    have hpath : (before ++ p :: after).filter Parameter.fillsPath = op.pathParameters := by
      rw [hp.pathParameters_eq, ← hsplit]
      rfl
    have hquery : ((before ++ p :: after).any fun q => q.carrier = .query) = op.hasQuery := by
      rw [hp.hasQuery_eq, ← hsplit]
      rfl
    have hpayload : ((before ++ p :: after).filter Parameter.isInPayload).head?
        = op.payloadParameter? := by
      rw [hp.payload_eq, ← hsplit]
      rfl
    exact ⟨sameRequest_parameters op _, congrArg _ hpath, hquery, congrArg _ hpayload⟩
  | responses hanswer => exact ⟨⟨rfl, rfl, rfl, hanswer⟩, rfl, rfl, rfl⟩
  | texts => exact ⟨⟨rfl, rfl, rfl, rfl⟩, rfl, rfl, rfl⟩

/-- Edits that are made and taken back, any number of times, change nothing. -/
theorem result_eq_of_edits {op op' : Operation} (h : Relation.EqvGen Edit op op') :
    op'.compile.result = op.compile.result := by
  induction h with
  | rel _ _ hedit => exact hedit.sameInputs.result_eq
  | refl _ => rfl
  | symm _ _ _ ih => exact ih.symm
  | trans _ _ _ _ _ ih₁ ih₂ => exact ih₂.trans ih₁

/-- **Noninterference**: what comes of an operation depends on its inputs alone. Two operations with
    the same inputs become equal units or are refused for the same reason. So do two operations of
    which one is made from the other by edits: parameters that are idle, in a query that there is
    anyway or behind the first payload are put in, taken out or moved, and responses other than that
    of success and texts for readers are changed. -/
theorem compile_noninterference (op op' : Operation) :
    (op.SameInputs op' → op'.compile.result = op.compile.result)
      ∧ (Relation.EqvGen Edit op op' → op'.compile.result = op.compile.result) :=
  ⟨SameInputs.result_eq, result_eq_of_edits⟩

/-- An operation with the parameters that its inputs need. -/
def spareParameters : Operation where
  id := "updatePet"
  method := .put
  path := "/pets/\x7bpetId\x7d/\x7btag\x7d"
  parameters :=
    [{ name := "petId", carrier := .path, required := true, kind := some "integer" },
     { name := "tag", carrier := .path, required := true, schema := some (.linkTo "Tag") },
     { name := "dryRun", carrier := .query, kind := some "boolean" },
     { name := "body", carrier := .body, schema := some (.linkTo "Pet") }]
  responses := [("200", { schema := some (.linkTo "Response") })]

/-- The same operation with more parameters in another order, other responses and a summary. -/
def crowdedParameters : Operation where
  id := "updatePet"
  method := .put
  path := "/pets/\x7bpetId\x7d/\x7btag\x7d"
  parameters :=
    [{ name := "X-Trace", carrier := .header, required := true },
     { name := "pet", carrier := .formData, schema := some (.linkTo "Pet") },
     { name := "petId", carrier := .path, required := true, kind := some "integer" },
     { name := "limit", carrier := .query, kind := some "integer" },
     { name := "photo", carrier := .formData, kind := some "file" },
     { name := "language", carrier := .path },
     { name := "tag", carrier := .path, required := true, schema := some (.linkTo "Tag") },
     { reference := some "#/parameters/page" },
     { name := "page", carrier := .query, schema := some (.linkTo "Page") }]
  responses :=
    [("404", { schema := some (.linkTo "Error") }),
     ("200", { description := some "Stored", schema := some (.linkTo "Response") })]
  summary := some "Stores a pet"

/-- The first operation with one more parameter of the query, in front of all others. -/
def furtherQuery : Operation :=
  { spareParameters with
    parameters := { name := "limit", carrier := .query } :: spareParameters.parameters }

/-- The same without the parameter of the query that the first operation had: in effect that one was
    moved and renamed. -/
def movedQuery : Operation :=
  { spareParameters with
    parameters :=
      [{ name := "limit", carrier := .query },
       { name := "petId", carrier := .path, required := true, kind := some "integer" },
       { name := "tag", carrier := .path, required := true, schema := some (.linkTo "Tag") },
       { name := "body", carrier := .body, schema := some (.linkTo "Pet") }] }

theorem edits_movedQuery : Relation.EqvGen Edit spareParameters movedQuery := by
  have hput : Edit spareParameters furtherQuery :=
    @Edit.parameter spareParameters [] spareParameters.parameters _ rfl
      (.furtherQuery rfl ⟨_, .tail _ (.tail _ (.head _)), rfl⟩)
  have htaken : Edit movedQuery furtherQuery :=
    @Edit.parameter movedQuery (movedQuery.parameters.take 3) (movedQuery.parameters.drop 3)
      { name := "dryRun", carrier := .query, kind := some "boolean" } rfl
      (.furtherQuery rfl ⟨_, .head _, rfl⟩)
  exact .trans _ _ _ (.rel _ _ hput) (.symm _ _ (.rel _ _ htaken))

theorem compile_noninterference_crowded :
    spareParameters.SameInputs crowdedParameters
      ∧ Relation.EqvGen Edit spareParameters movedQuery
      ∧ spareParameters.compile.result = .ok spareParameters.sourceUnit
      ∧ crowdedParameters.compile.result = .ok spareParameters.sourceUnit
      ∧ movedQuery.compile.result = .ok spareParameters.sourceUnit := by
  have same : spareParameters.SameInputs crowdedParameters := ⟨⟨rfl, rfl, rfl, rfl⟩, rfl, rfl, rfl⟩
  have accepted : spareParameters.compile.result = .ok spareParameters.sourceUnit := rfl
  refine ⟨same, edits_movedQuery, accepted, ?_, ?_⟩
  · rw [(compile_noninterference _ _).1 same, accepted]
  · rw [(compile_noninterference _ _).2 edits_movedQuery, accepted]

end Operation

end ClientGen
