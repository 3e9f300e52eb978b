import ClientGen.Proofs.Operation.TypeLinks

/-! # What an operation takes from its parameters

  An operation may have many parameters, and its unit shows little of them: the path arguments with
  their types, whether there is a query, and the type of the payload. That is the *signature*.

  * **`sourceUnit_eq_iff`**: of two operations with one request and one answer, the units are equal
    exactly if the signatures are. So nothing else about the parameters comes through, and nothing
    of the signature is lost on the way.
  * **`result_compile_eq_iff`**: the same for what comes of the operations, refusals included.
  * **`compile_eq_of_parameters`**: the same for the notices, which show repeated and further
    parameters besides. -/

namespace ClientGen.Operation

/-- What the unit of an operation shows of the parameters. -/
structure Signature where
  path : List Argument
  hasQuery : Bool
  /-- The type of the payload, if there is a payload; it may be undeclared. -/
  payload : Option (Option TypeTerm)

def Signature.arguments (s : Signature) : List Argument :=
  [⟨Generated.hostname, some .string⟩] ++ s.path
    ++ (if s.hasQuery then [⟨Generated.query, some .object⟩] else [])
    ++ s.payload.toList.map fun type => ⟨Generated.data, type⟩

/-- Arguments tell their signature, once it is known which of the optional ones there are. -/
theorem Signature.eq_of_arguments {s s' : Signature} (hquery : s'.hasQuery = s.hasQuery)
    (hpayload : s'.payload.isSome = s.payload.isSome) (h : s'.arguments = s.arguments) :
    s' = s := by
  obtain ⟨path, hasQuery, payload⟩ := s
  obtain ⟨path', hasQuery', payload'⟩ := s'
  have hsame : hasQuery' = hasQuery := hquery
  subst hsame
  unfold arguments at h
  -- The optional arguments stand last, and there are as many of them on both sides.
  have hlength : (payload'.toList.map fun type => (⟨Generated.data, type⟩ : Argument)).length
      = (payload.toList.map fun type => (⟨Generated.data, type⟩ : Argument)).length := by
    cases payload <;> cases payload' <;> simp_all
  obtain ⟨hfront, hdata⟩ := List.append_inj' h hlength
  have hpath : path' = path :=
    List.append_cancel_left (List.append_cancel_right hfront)
  have htypes : payload' = payload := by
    cases payload <;> cases payload' <;> simp_all
  rw [hpath, htypes]

def signature (op : Operation) : Signature where
  path := op.emittedParameters.map fun p => ⟨p.name, p.ownType?⟩
  hasQuery := op.hasQuery
  payload := op.payloadParameter?.map Parameter.ownType?

theorem plainArguments_eq (op : Operation) : op.plainArguments = op.signature.arguments := by
  unfold plainArguments Signature.arguments signature queryArguments
  cases op.payloadParameter? <;> rfl

/-! ## Units and signatures -/

/-- Two operations are called the same, send one request and get one answer, whatever parameters
    they have. -/
structure SameRequest (op op' : Operation) : Prop where
  id_eq : op'.id = op.id
  method_eq : op'.method = op.method
  path_eq : op'.path = op.path
  /-- Their answers have one type. -/
  answer_eq : op'.answerSchema? = op.answerSchema?

/-- Other parameters do not change the request. -/
theorem sameRequest_parameters (op : Operation) (parameters : List Parameter) :
    op.SameRequest { op with parameters := parameters } := ⟨rfl, rfl, rfl, rfl⟩

section

variable {op op' : Operation}

theorem sourceUnit_eq_of_signature (same : op.SameRequest op')
    (h : op'.signature = op.signature) : op'.sourceUnit = op.sourceUnit := by
  have hanswer : op'.plainAnswer = op.plainAnswer := by
    unfold plainAnswer
    rw [same.answer_eq]
  have harguments : op'.plainArguments = op.plainArguments := by
    rw [plainArguments_eq, plainArguments_eq, h]
  -- The arguments and the answer tell by their types which definitions are linked.
  have hlinks : op'.linkedNames = op.linkedNames := by
    rw [← links_plain, ← links_plain, harguments, hanswer]
  have hquery : op'.hasQuery = op.hasQuery := congrArg Signature.hasQuery h
  have hpayload : op'.payloadParameter?.isSome = op.payloadParameter?.isSome := by
    have hsome := congrArg (fun s => Option.isSome s.payload) h
    simpa [signature] using hsome
  unfold sourceUnit items requestBody address
  simp only [hanswer, harguments, hlinks, hquery, hpayload, same.id_eq, same.method_eq,
    same.path_eq]

/-- The address shows whether there is a query. -/
theorem hasQuery_eq_of_address (h : op'.address = op.address) : op'.hasQuery = op.hasQuery := by
  unfold address at h
  obtain ⟨_, hpath⟩ := Expr.concat.inj h
  cases hquery : op.hasQuery <;> cases hquery' : op'.hasQuery <;> simp_all

/-- The body of the function shows the address, and whether there is a payload. -/
theorem parts_of_requestBody {hasPayload hasPayload' : Bool}
    (h : op'.requestBody hasPayload' = op.requestBody hasPayload) :
    op'.address = op.address ∧ hasPayload' = hasPayload := by
  unfold requestBody at h
  cases hasPayload <;> cases hasPayload' <;> simp_all

theorem signature_eq_of_sourceUnit (h : op'.sourceUnit = op.sourceUnit) :
    op'.signature = op.signature := by
  have hfunction : op'.unitFunction = op.unitFunction := by
    have hsome := congrArg (fun u => u.script.function?) h
    simpa only [function?_sourceUnit, Option.some.injEq] using hsome
  -- The imports of the unit tell how the types of the arguments were translated.
  have harguments : op'.plainArguments = op.plainArguments := by
    rw [← op'.faithfulLinks_sourceUnit.arguments_restored,
      ← op.faithfulLinks_sourceUnit.arguments_restored, h, hfunction]
  have hbody := congrArg FunctionItem.body hfunction
  obtain ⟨haddress, hpayload⟩ := parts_of_requestBody hbody
  apply Signature.eq_of_arguments (hasQuery_eq_of_address haddress)
  · simpa [signature] using hpayload
  · rw [← plainArguments_eq, ← plainArguments_eq, harguments]

/-- The units of operations with one request are equal exactly if the signatures are. -/
theorem sourceUnit_eq_iff (same : op.SameRequest op') :
    op'.sourceUnit = op.sourceUnit ↔ op'.signature = op.signature :=
  ⟨signature_eq_of_sourceUnit, sourceUnit_eq_of_signature same⟩

end

/-! ## What the checks look at -/

/-- Two operations look the same to the checks: they have one id and one path template, the names of
    their required path parameters agree one by one, and they agree on what else the function binds.
    Types are not looked at. -/
structure SameChecked (op op' : Operation) : Prop where
  id_eq : op'.id = op.id
  path_eq : op'.path = op.path
  /-- Their required path parameters have the same names. -/
  names_eq : op'.pathParameters.map Parameter.name = op.pathParameters.map Parameter.name
  hasQuery_eq : op'.hasQuery = op.hasQuery
  hasPayload_eq : op'.payloadParameters.isEmpty = op.payloadParameters.isEmpty

section

variable {op op' : Operation}

theorem SameChecked.checkPathParameters_eq (same : op.SameChecked op') :
    op'.checkPathParameters = op.checkPathParameters := by
  unfold checkPathParameters pathParameterNames
  rw [same.id_eq, same.path_eq, same.names_eq]

theorem SameChecked.checkPathNames_eq (same : op.SameChecked op') :
    op'.checkPathNames = op.checkPathNames := by
  have hname : op'.checkPathName = op.checkPathName := by
    funext name
    unfold checkPathName
    rw [same.id_eq, same.hasQuery_eq, same.hasPayload_eq]
  -- The check goes through the parameters, but it looks at their names alone.
  have hnames : ∀ o : Operation,
      o.checkPathNames = (o.pathParameters.map Parameter.name).forM o.checkPathName := by
    intro o
    rw [checkPathNames, List.forM_eq_forM, List.forM_eq_forM, List.forM_map]
  rw [hnames, hnames, same.names_eq, hname]

end

/-! ## What comes of operations -/

def check (op : Operation) : Except Defect Unit :=
  op.checkPathParameters.bind fun _ => op.checkPathNames

theorem SameChecked.check_eq {op op' : Operation} (same : op.SameChecked op') :
    op'.check = op.check := by
  unfold check
  rw [same.checkPathParameters_eq, same.checkPathNames_eq]

theorem result_compile_eq (op : Operation) :
    op.compile.result = op.check.map fun _ => op.sourceUnit := by
  rw [result_compile]
  unfold check
  cases op.checkPathParameters with
  | error e => rfl
  | ok _ => cases op.checkPathNames <;> rfl

/-- The same comes of two operations with one request exactly if the checks say the same of both,
    and the signatures are equal if nothing is found. -/
theorem result_compile_eq_iff {op op' : Operation} (same : op.SameRequest op') :
    op'.compile.result = op.compile.result
      ↔ op'.check = op.check ∧ (op.check = .ok () → op'.signature = op.signature) := by
  rw [result_compile_eq, result_compile_eq, ← sourceUnit_eq_iff same]
  cases op.check <;> cases op'.check <;> simp [Except.map]

/-- The parameters that fill the path, those of the payload, and whether there is a query: nothing
    else about the parameters comes through, notices included. -/
theorem compile_eq_of_parameters {op : Operation} {parameters : List Parameter}
    (hpath : parameters.filter Parameter.fillsPath = op.pathParameters)
    (hpayload : parameters.filter Parameter.isInPayload = op.payloadParameters)
    (hquery : (parameters.any fun p => p.carrier = .query) = op.hasQuery) :
    { op with parameters := parameters }.compile = op.compile := by
  have hpath' : pathParameters { op with parameters := parameters } = op.pathParameters := hpath
  have hpayload' : payloadParameters { op with parameters := parameters }
      = op.payloadParameters := hpayload
  have hquery' : hasQuery { op with parameters := parameters } = op.hasQuery := hquery
  unfold compile checkPathParameters pathParameterNames payload checkPathNames checkPathName
    queryArguments items requestBody address
  simp only [hpath', hpayload', hquery']
  rfl

end ClientGen.Operation
