import Mathlib.Data.List.Basic
import ClientGen.Operation.Compile
import ClientGen.Proofs.Names.FirstSeen
import ClientGen.Proofs.Schema.Typing

/-! # Accepted operations

  Making a unit is a walk that passes links along and may stop at either of two checks. Here the
  same work is written without the walk: each part of the unit is read off the operation on its own,
  and the checks become conditions on names.

  * **`result_compile`**: the answer of `compile` is the two checks, one after the other, and then
    `sourceUnit`.
  * **`compile_eq_ok_iff`**: an operation is accepted iff the placeholders of its path are its
    required path parameters and each of them may name an argument; the unit is then `sourceUnit`.

  Everything that is proved about accepted operations starts from these two. -/

namespace ClientGen

def Parameter.ownType? (p : Parameter) : Option TypeTerm :=
  p.ownSchema?.map fun schema => schema.typing.type

namespace Operation

/-! ## The parts of the unit -/

/-- The path parameters that become arguments: for each name the first parameter declared with it,
    ordered by first declaration. -/
def emittedParameters (op : Operation) : List Parameter :=
  op.pathParameterNames.filterMap fun name => op.pathParameters.find? fun p => p.name = name

/-- The parameter that becomes the payload: the first of its kind. -/
def payloadParameter? (op : Operation) : Option Parameter := op.payloadParameters.head?

/-- The schemas whose types are written in the unit, in the order in which they are translated:
    those of the path arguments, that of the payload, that of the answer. -/
def declaredSchemas (op : Operation) : List Schema :=
  op.emittedParameters.filterMap Parameter.ownSchema?
    ++ (op.payloadParameter?.bind Parameter.ownSchema?).toList ++ op.answerSchema?.toList

/-- The definitions linked from these schemas, in order and with repetitions. -/
def linkedNames (op : Operation) : List String :=
  op.declaredSchemas.flatMap fun schema => schema.typing.dependencies

/-- The arguments of the function with their types as translated. -/
def plainArguments (op : Operation) : List Argument :=
  [⟨Generated.hostname, some .string⟩]
    ++ op.emittedParameters.map (fun p => ⟨p.name, p.ownType?⟩)
    ++ op.queryArguments
    ++ op.payloadParameter?.toList.map fun p => ⟨Generated.data, p.ownType?⟩

/-- The type of the answer as translated. -/
def plainAnswer (op : Operation) : TypeTerm :=
  (op.answerSchema?.map fun schema => schema.typing.type).getD .any

/-- The unit that an operation becomes if it is accepted. -/
def sourceUnit (op : Operation) : SourceUnit :=
  let imports := Names.firstSeen op.linkedNames
  { name := op.id, kind := .operation,
    script := ⟨op.items imports op.plainArguments op.plainAnswer op.payloadParameter?.isSome⟩,
    dependencies := imports }

/-! ## The walk over the parameters -/

/-- The parameters that become arguments when arguments named as in `seen` exist already. -/
def firstNamed (seen : List String) (parameters : List Parameter) : List Parameter :=
  (Names.firstSeenAfter seen (parameters.map Parameter.name)).filterMap fun name =>
    parameters.find? fun p => p.name = name

/-- A parameter is out of reach of all names but its own. -/
theorem filterMap_find?_cons {p : Parameter} {names : List String} (rest : List Parameter)
    (h : p.name ∉ names) :
    (names.filterMap fun name => (p :: rest).find? fun q => q.name = name)
      = names.filterMap fun name => rest.find? fun q => q.name = name := by
  apply List.filterMap_congr
  intro name hname
  have hne : p.name ≠ name := by
    intro heq
    exact h (heq ▸ hname)
  rw [List.find?_cons_of_neg (by simpa using hne)]

theorem firstNamed_cons_of_mem {seen : List String} {p : Parameter} (rest : List Parameter)
    (h : p.name ∈ seen) : firstNamed seen (p :: rest) = firstNamed seen rest := by
  have hnames : Names.firstSeenAfter seen ((p :: rest).map Parameter.name)
      = Names.firstSeenAfter seen (rest.map Parameter.name) :=
    Names.firstSeenAfter_cons_of_mem _ h
  unfold firstNamed
  rw [hnames]
  apply filterMap_find?_cons
  intro hmem
  exact (Names.mem_firstSeenAfter.mp hmem).2 h

theorem firstNamed_cons_of_not_mem {seen : List String} {p : Parameter} (rest : List Parameter)
    (h : p.name ∉ seen) :
    firstNamed seen (p :: rest) = p :: firstNamed (p.name :: seen) rest := by
  have hnames : Names.firstSeenAfter seen ((p :: rest).map Parameter.name)
      = p.name :: Names.firstSeenAfter (p.name :: seen) (rest.map Parameter.name) :=
    Names.firstSeenAfter_cons_of_not_mem _ h
  unfold firstNamed
  rw [hnames, List.filterMap_cons, List.find?_cons_of_pos (by simp)]
  show p :: _ = p :: _
  congr 1
  -- The first entry is found under its own name alone, which is not sought again.
  apply filterMap_find?_cons
  intro hmem
  exact (Names.mem_firstSeenAfter.mp hmem).2 (List.mem_cons_self ..)

theorem declaredInto_eq (before : List String) (declared : Option Schema) :
    declaredInto before declared
      = (declared.map fun schema => schema.typing.type,
         before ++ declared.toList.flatMap fun schema => schema.typing.dependencies) := by
  cases declared with
  | none => simp [declaredInto]
  | some schema => simp [declaredInto, Schema.typeInto_eq_typing]

/-- The walk over the path parameters finds the arguments named first and puts their links behind
    those met before. -/
theorem result_pathArguments (id : String) (parameters : List Parameter) :
    ∀ seen before : List String,
      (pathArguments id seen before parameters).result
        = .ok ((firstNamed seen parameters).map (fun p => ⟨p.name, p.ownType?⟩),
            before ++ ((firstNamed seen parameters).filterMap Parameter.ownSchema?).flatMap
              fun schema => schema.typing.dependencies) := by
  induction parameters with
  | nil =>
    intro seen before
    simp [pathArguments, firstNamed, Names.firstSeenAfter, Logged.ok]
  | cons p rest ih =>
    intro seen before
    unfold pathArguments
    -- A repeated name changes nothing; a new one counts as seen for the rest of the walk.
    by_cases h : p.name ∈ seen
    · rw [if_pos h, firstNamed_cons_of_mem rest h, Logged.result_bind, Logged.result_tell]
      exact ih seen before
    · rw [if_neg h, firstNamed_cons_of_not_mem rest h, declaredInto_eq, Logged.result_bind, ih]
      cases hschema : p.ownSchema? <;>
        simp [Except.bind, Logged.result_pure, Parameter.ownType?, hschema]

/-! ## The whole unit -/

theorem result_payload (op : Operation) : op.payload.result = .ok op.payloadParameter? := by
  unfold payload payloadParameter?
  cases op.payloadParameters <;> rfl

theorem payloadArguments_eq (before : List String) (payload : Option Parameter) :
    payloadArguments before payload
      = (payload.toList.map (fun p => ⟨Generated.data, p.ownType?⟩),
         before ++ (payload.bind Parameter.ownSchema?).toList.flatMap
           fun schema => schema.typing.dependencies) := by
  cases payload with
  | none => simp [payloadArguments]
  | some p => simp [payloadArguments, declaredInto_eq, Parameter.ownType?]

theorem answerInto_eq (op : Operation) (before : List String) :
    op.answerInto before
      = (op.plainAnswer,
         before ++ op.answerSchema?.toList.flatMap fun schema => schema.typing.dependencies) := by
  unfold answerInto plainAnswer
  cases op.answerSchema? with
  | none => simp
  | some schema => simp [Schema.typeInto_eq_typing]

/-- Making a unit is passing the two checks. -/
theorem result_compile (op : Operation) :
    op.compile.result
      = op.checkPathParameters.bind fun _ => op.checkPathNames.bind fun _ => .ok op.sourceUnit := by
  have hwalk := result_pathArguments op.id op.pathParameters [] []
  have hemitted : firstNamed [] op.pathParameters = op.emittedParameters := rfl
  rw [hemitted, List.nil_append] at hwalk
  unfold compile
  simp only [Logged.result_bind, Logged.result_ofExcept, result_payload, hwalk, Except.bind,
    payloadArguments_eq, answerInto_eq, Logged.result_pure]
  simp only [sourceUnit, linkedNames, declaredSchemas, plainArguments, List.flatMap_append]

/-! ## The checks as conditions on names -/

theorem hasQuery_iff {op : Operation} :
    op.hasQuery = true ↔ ∃ p ∈ op.parameters, p.carrier = .query := by
  simp [hasQuery, List.any_eq_true]

theorem hasPayload_iff {op : Operation} :
    (!op.payloadParameters.isEmpty) = true
      ↔ ∃ p ∈ op.parameters, p.carrier = .formData ∨ p.carrier = .body := by
  rw [Bool.not_eq_true', List.isEmpty_eq_false_iff_exists_mem]
  simp only [payloadParameters, Parameter.isInPayload, List.mem_filter, Bool.or_eq_true,
    decide_eq_true_eq]

theorem checkPathParameters_eq_ok_iff {op : Operation} :
    op.checkPathParameters = .ok ()
      ↔ ∀ n, n ∈ PathTemplate.argumentNames op.path ↔ n ∈ op.pathParameterNames := by
  have hsame : sameNames (PathTemplate.argumentNames op.path) op.pathParameterNames = true
      ↔ ∀ n, n ∈ PathTemplate.argumentNames op.path ↔ n ∈ op.pathParameterNames := by
    simp only [sameNames, Bool.and_eq_true, List.all_eq_true, List.contains_iff_mem]
    exact ⟨fun ⟨hto, hfrom⟩ n => ⟨hto n, hfrom n⟩,
      fun h => ⟨fun n => (h n).mp, fun n => (h n).mpr⟩⟩
  rw [← hsame]
  simp only [checkPathParameters]
  split <;> simp_all

/-- A name may be that of a path argument: it may be bound, and the function does not use it for its
    own ends. -/
structure FitName (op : Operation) (name : String) : Prop where
  /-- It is an identifier that is not reserved. -/
  bindable : Text.isBindable name = true
  /-- The function does not use it for its own ends. -/
  notGenerated : isGeneratedName op.hasQuery (!op.payloadParameters.isEmpty) name = false

theorem checkPathName_eq_ok_iff {op : Operation} {name : String} :
    op.checkPathName name = .ok () ↔ op.FitName name := by
  unfold checkPathName
  constructor
  · intro h
    split at h
    · cases h
    · split at h
      · cases h
      · exact ⟨by simp_all, by simp_all⟩
  · rintro ⟨hbindable, hgenerated⟩
    simp [hbindable, hgenerated]

theorem checkPathNames_eq_ok_iff {op : Operation} :
    op.checkPathNames = .ok () ↔ ∀ p ∈ op.pathParameters, op.FitName p.name := by
  rw [checkPathNames, List.forM_eq_forM]
  induction op.pathParameters with
  | nil => simp [pure, Except.pure]
  | cons p rest ih =>
    -- The loop goes on exactly if the check of the first parameter passes.
    rw [List.forM_cons, List.forall_mem_cons, ← ih, ← checkPathName_eq_ok_iff]
    cases op.checkPathName p.name with
    | error e => simp [bind, Except.bind]
    | ok u => simp [bind, Except.bind]

/-- When an operation is accepted, and what it becomes. -/
theorem compile_eq_ok_iff {op : Operation} {u : SourceUnit} :
    op.compile.result = .ok u
      ↔ (∀ n, n ∈ PathTemplate.argumentNames op.path ↔ n ∈ op.pathParameterNames)
        ∧ (∀ p ∈ op.pathParameters, op.FitName p.name) ∧ u = op.sourceUnit := by
  rw [result_compile, ← checkPathParameters_eq_ok_iff, ← checkPathNames_eq_ok_iff]
  -- With either check failed both sides are false; with both passed the unit is what is left.
  cases op.checkPathParameters with
  | error e => simp [Except.bind]
  | ok _ =>
    cases op.checkPathNames with
    | error e => simp [Except.bind]
    | ok _ => simp [Except.bind, eq_comm]

end Operation

end ClientGen
