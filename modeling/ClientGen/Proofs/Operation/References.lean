import ClientGen.Proofs.Operation.Signature

/-! # References to shared parameters

  An entry among the parameters may refer to a parameter that operations share. The reference is
  not followed. It is not looked at either: an entry with a reference is a parameter like any other,
  with the name and the carrier that are written beside it. As a rule nothing is written there, and
  then the entry is idle.

  * **`compile_referTo`**: the same comes of an operation whatever its parameters refer to.
  * **`compile_withoutReferences`**: the same comes of it without such entries, if they are idle.
  * **`withoutReferences_compile_iff`**: when the same comes of it without them. -/

namespace ClientGen

namespace Parameter

/-- Whether a parameter plays no part in the request: the path does not have to be filled with it,
    and neither the query nor the payload carries it. -/
def isIdle (p : Parameter) : Bool := !p.fillsPath && p.carrier ≠ .query && !p.isInPayload

theorem isIdle_iff {p : Parameter} :
    p.isIdle = true ↔ p.fillsPath = false ∧ p.carrier ≠ .query ∧ p.isInPayload = false := by
  simp [isIdle, and_assoc]

end Parameter

/-! ## Choosing twice

  What a second choice takes is there after a first one, if it takes nothing that the first one
  leaves. -/

section

variable {α : Type} {p q : α → Bool} {xs : List α}

theorem filter_of_filter (h : ∀ x ∈ xs, p x = false → q x = false) :
    (xs.filter p).filter q = xs.filter q := by
  rw [List.filter_filter]
  apply List.filter_congr
  intro x hx
  cases hp : p x with
  | false => rw [h x hx hp, Bool.and_false]
  | true => rw [Bool.and_true]

theorem any_of_filter (h : ∀ x ∈ xs, p x = false → q x = false) :
    (xs.filter p).any q = xs.any q := by
  rw [Bool.eq_iff_iff, List.any_eq_true, List.any_eq_true]
  constructor
  · intro ⟨x, hx, hq⟩
    exact ⟨x, List.mem_of_mem_filter hx, hq⟩
  · intro ⟨x, hx, hq⟩
    have hp : p x = true := by
      by_contra hp
      rw [h x hx (Bool.eq_false_iff.mpr hp)] at hq
      cases hq
    exact ⟨x, List.mem_filter.mpr ⟨hx, hp⟩, hq⟩

end

/-! ## References are not looked at -/

/-- A parameter that refers to something else, or to nothing. -/
def Parameter.referTo (reference : Parameter → Option String) (p : Parameter) : Parameter :=
  { p with reference := reference p }

namespace Operation

/-- An operation whose parameters refer to something else, or to nothing. -/
def referTo (reference : Parameter → Option String) (op : Operation) : Operation :=
  { op with parameters := op.parameters.map (Parameter.referTo reference) }

section

variable (reference : Parameter → Option String) (op : Operation)

theorem pathParameters_referTo : (op.referTo reference).pathParameters
    = op.pathParameters.map (Parameter.referTo reference) := List.filter_map

theorem payloadParameters_referTo : (op.referTo reference).payloadParameters
    = op.payloadParameters.map (Parameter.referTo reference) := List.filter_map

theorem hasQuery_referTo : (op.referTo reference).hasQuery = op.hasQuery := List.any_map

/-- The checks do not look at references. -/
theorem sameChecked_referTo : op.SameChecked (op.referTo reference) where
  id_eq := rfl
  path_eq := rfl
  names_eq := by
    rw [pathParameters_referTo]
    exact List.map_map
  hasQuery_eq := hasQuery_referTo reference op
  hasPayload_eq := by rw [payloadParameters_referTo, List.isEmpty_map]

theorem payload_referTo : (op.referTo reference).payload
    = Option.map (Parameter.referTo reference) <$> op.payload := by
  unfold payload
  rw [payloadParameters_referTo]
  cases op.payloadParameters with
  | nil => rfl
  | cons first extras =>
    rw [Logged.map_ok, List.map_cons]
    simp only [List.map_map]
    rfl

theorem payloadArguments_referTo (links : List String) (payload : Option Parameter) :
    payloadArguments links (payload.map (Parameter.referTo reference))
      = payloadArguments links payload := by
  cases payload <;> rfl

theorem pathArguments_referTo (id : String) (parameters : List Parameter) :
    ∀ seen links : List String,
      pathArguments id seen links (parameters.map (Parameter.referTo reference))
        = pathArguments id seen links parameters := by
  induction parameters with
  | nil =>
    intro seen links
    rfl
  | cons p rest ih =>
    intro seen links
    have hname : (p.referTo reference).name = p.name := rfl
    have hschema : (p.referTo reference).ownSchema? = p.ownSchema? := rfl
    rw [List.map_cons]
    unfold pathArguments
    simp only [hname, hschema, ih]

/-- The same comes of an operation whatever its parameters refer to. -/
theorem compile_referTo : (op.referTo reference).compile = op.compile := by
  have same := sameChecked_referTo reference op
  have hid : (op.referTo reference).id = op.id := rfl
  have hanswer : ∀ links, (op.referTo reference).answerInto links = op.answerInto links :=
    fun _ => rfl
  have hquery : (op.referTo reference).queryArguments = op.queryArguments := by
    unfold queryArguments
    rw [hasQuery_referTo]
  have hitems : ∀ imports arguments answer hasPayload,
      (op.referTo reference).items imports arguments answer hasPayload
        = op.items imports arguments answer hasPayload := by
    intro imports arguments answer hasPayload
    unfold items requestBody address
    rw [hasQuery_referTo]
    rfl
  -- The payload is the one part that is handed on with its reference; nothing reads it there.
  unfold compile
  simp only [hid, hanswer, hquery, hitems, same.checkPathParameters_eq, same.checkPathNames_eq,
    payload_referTo, pathParameters_referTo, pathArguments_referTo, bind_map_left,
    payloadArguments_referTo, Option.isSome_map]

end

/-! ## Entries with references deleted -/

/-- An operation without the entries that refer to shared parameters. -/
def withoutReferences (op : Operation) : Operation :=
  { op with parameters := op.parameters.filter fun p => p.reference.isNone }

/-- Entries that are idle may be deleted. -/
theorem compile_withoutReferences {op : Operation}
    (idle : ∀ p ∈ op.parameters, p.reference.isSome = true → p.isIdle = true) :
    op.withoutReferences.compile = op.compile := by
  have hidle : ∀ p ∈ op.parameters, p.reference.isNone = false →
      p.fillsPath = false ∧ p.carrier ≠ .query ∧ p.isInPayload = false := by
    intro p hp hreference
    exact Parameter.isIdle_iff.mp (idle p hp (Option.isNone_eq_false_iff.mp hreference))
  -- An idle entry is in none of the three selections that are made of the parameters.
  apply compile_eq_of_parameters
  · exact filter_of_filter fun p hp hreference => (hidle p hp hreference).1
  · exact filter_of_filter fun p hp hreference => (hidle p hp hreference).2.2
  · exact any_of_filter fun p hp hreference => decide_eq_false (hidle p hp hreference).2.1

/-- **References among the parameters**: the same comes of an operation whatever its parameters
    refer to. So an entry with a reference counts as any other does, and deleting all such entries
    makes no difference exactly if the checks say the same without them and, where nothing is found,
    the signature is the same without them. It is if they are idle, as entries are that hold nothing
    but a reference. -/
theorem withoutReferences_compile_iff (op : Operation) :
    (∀ reference, (op.referTo reference).compile = op.compile)
      ∧ (op.withoutReferences.compile.result = op.compile.result
          ↔ op.withoutReferences.check = op.check
            ∧ (op.check = .ok () → op.withoutReferences.signature = op.signature))
      ∧ ((∀ p ∈ op.parameters, p.reference.isSome = true → p.isIdle = true) →
          op.withoutReferences.compile = op.compile) :=
  ⟨fun reference => compile_referTo reference op,
    result_compile_eq_iff (sameRequest_parameters op _), compile_withoutReferences⟩

/-- An operation with two references; beside one of them the name and the carrier of a parameter
    are written. -/
def idleReferences : Operation where
  id := "getPet"
  path := "/pets/\x7bpetId\x7d"
  parameters :=
    [{ reference := some "#/parameters/petId" },
     { name := "petId", carrier := .path, required := true, kind := some "integer" },
     { name := "X-Trace", carrier := .header, required := true,
       reference := some "#/parameters/trace" }]

theorem withoutReferences_idleReferences :
    (∀ p ∈ idleReferences.parameters, p.reference.isSome = true → p.isIdle = true)
      ∧ idleReferences.withoutReferences.parameters.length = 1
      ∧ idleReferences.withoutReferences.compile = idleReferences.compile := by
  have idle : ∀ p ∈ idleReferences.parameters, p.reference.isSome = true → p.isIdle = true := by
    decide
  exact ⟨idle, by decide, (withoutReferences_compile_iff idleReferences).2.2 idle⟩

/-- An operation with one reference, beside which a parameter of the query is written. -/
def writtenOutReference : Operation where
  id := "listPets"
  path := "/pets"
  parameters :=
    [{ name := "limit", carrier := .query, kind := some "integer",
       reference := some "#/parameters/limit" }]

/-- The function gets an argument for the query from that entry alone. -/
theorem withoutReferences_writtenOutReference :
    ∃ u u', writtenOutReference.compile.result = .ok u
      ∧ writtenOutReference.withoutReferences.compile.result = .ok u'
      ∧ u.script.function?.map (fun f => f.arguments.map Argument.name)
        = some ["hostname", "query"]
      ∧ u'.script.function?.map (fun f => f.arguments.map Argument.name) = some ["hostname"]
      ∧ writtenOutReference.withoutReferences.compile.result
        ≠ writtenOutReference.compile.result := by
  refine ⟨_, _, rfl, rfl, rfl, rfl, ?_⟩
  intro h
  have hunits := (result_compile_eq_iff (sameRequest_parameters writtenOutReference _)).mp h
  -- If the results were equal, so were the signatures; but only one of them has a query.
  have hquery := congrArg Signature.hasQuery (hunits.2 rfl)
  exact absurd hquery (by decide)

end Operation

end ClientGen
