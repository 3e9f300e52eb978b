import Mathlib.Data.List.Nodup
import ClientGen.Proofs.Operation.Unit

/-! # Hygiene of the function

  The function of a unit binds names of two kinds: path parameters, which the document chooses, and
  words of the generator. Its body uses these and the names of helpers, which are bound outside it.
  The two checks of an operation are what keeps all of them apart.

  * The placeholders of the path are the path parameters, so the body uses every argument and
    nothing that is no argument.
  * A path parameter is none of the words that this function uses, so arguments are distinct and no
    argument hides a helper.

  `hygienicBody_of_compile` puts these together. -/

namespace ClientGen.Operation

/-! ## Arguments -/

/-- Each name of a path parameter is the name of one argument. -/
theorem names_emittedParameters (op : Operation) :
    op.emittedParameters.map Parameter.name = op.pathParameterNames := by
  unfold emittedParameters
  have hfind : ∀ n ∈ op.pathParameterNames,
      ∃ p, (op.pathParameters.find? fun p => p.name = n) = some p ∧ p.name = n := by
    intro n hn
    obtain ⟨p, hp, hname⟩ := List.mem_map.mp (Names.mem_firstSeen.mp hn)
    have hfound : (op.pathParameters.find? fun p => p.name = n).isSome := by
      rw [List.find?_isSome]
      exact ⟨p, hp, by simp [hname]⟩
    obtain ⟨q, hq⟩ := Option.isSome_iff_exists.mp hfound
    exact ⟨q, hq, by simpa using List.find?_some hq⟩
  -- Where the names come from no longer matters, only that each of them is found.
  generalize op.pathParameterNames = names at hfind ⊢
  induction names with
  | nil => rfl
  | cons n rest ih =>
    obtain ⟨p, hp, hname⟩ := hfind n (List.mem_cons_self ..)
    simp only [List.filterMap_cons, hp, List.map_cons, hname]
    rw [ih fun m hm => hfind m (List.mem_cons_of_mem n hm)]

/-- The arguments that the generator adds behind the path parameters. -/
def addedNames (op : Operation) : List String :=
  (if op.hasQuery then [Generated.query] else [])
    ++ if op.payloadParameter?.isSome then [Generated.data] else []

theorem argumentNames_unitFunction (op : Operation) :
    op.unitFunction.argumentNames
      = Generated.hostname :: (op.pathParameterNames ++ op.addedNames) := by
  have hquery : op.queryArguments.map Argument.name
      = if op.hasQuery then [Generated.query] else [] := by
    unfold queryArguments
    cases op.hasQuery <;> rfl
  have hpayload : (op.payloadParameter?.toList.map fun p =>
        (⟨Generated.data, p.ownType?⟩ : Argument)).map Argument.name
      = if op.payloadParameter?.isSome then [Generated.data] else [] := by
    cases op.payloadParameter? <;> rfl
  -- Leading links elsewhere changes no name.
  have hlinks : Argument.name ∘ Argument.mapLinks op.localName = Argument.name := rfl
  unfold FunctionItem.argumentNames unitFunction plainArguments addedNames
  rw [List.map_map, hlinks, ← names_emittedParameters]
  simp only [List.map_append, hquery, hpayload, List.map_map, Function.comp_def]
  simp

theorem mem_addedNames {op : Operation} {n : String} :
    n ∈ op.addedNames ↔ (op.hasQuery = true ∧ n = Generated.query)
      ∨ (op.payloadParameter?.isSome = true ∧ n = Generated.data) := by
  unfold addedNames
  cases op.hasQuery <;> cases op.payloadParameter?.isSome <;> simp

theorem nodup_addedNames (op : Operation) : op.addedNames.Nodup := by
  unfold addedNames
  cases op.hasQuery <;> cases op.payloadParameter?.isSome <;> decide

theorem hostname_not_mem_addedNames (op : Operation) : Generated.hostname ∉ op.addedNames := by
  unfold addedNames
  cases op.hasQuery <;> cases op.payloadParameter?.isSome <;> decide

/-! ## Fit names -/

theorem isSome_payloadParameter? (op : Operation) :
    op.payloadParameter?.isSome = !op.payloadParameters.isEmpty := by
  unfold payloadParameter?
  cases op.payloadParameters <;> rfl

/-- The words that the function uses for its own ends. -/
theorem isGeneratedName_iff {op : Operation} {n : String} :
    isGeneratedName op.hasQuery (!op.payloadParameters.isEmpty) n = true
      ↔ n = Generated.hostname ∨ n = Generated.request
        ∨ (op.hasQuery = true ∧ n = Generated.makeQuery) ∨ n ∈ op.addedNames := by
  rw [mem_addedNames, isSome_payloadParameter?]
  simp only [isGeneratedName, Bool.or_eq_true, Bool.and_eq_true, decide_eq_true_eq]
  tauto

/-- A fit name is none of these words. -/
theorem FitName.ne_generated {op : Operation} {n word : String} (h : op.FitName n)
    (hword : word = Generated.hostname ∨ word = Generated.request
      ∨ (op.hasQuery = true ∧ word = Generated.makeQuery) ∨ word ∈ op.addedNames) : n ≠ word := by
  rintro rfl
  rw [← isGeneratedName_iff, h.notGenerated] at hword
  cases hword

/-! ## Names in the body -/

theorem identifiersOfParts_segments (segments : List Segment) :
    Expr.identifiersOfParts (segments.map partOfSegment)
      = segments.filterMap PathTemplate.argumentName? := by
  induction segments with
  | nil => rfl
  | cons segment rest ih =>
    cases segment with
    | literal text =>
      simpa [partOfSegment, Expr.identifiersOfParts, PathTemplate.argumentName?,
        List.filterMap_cons] using ih
    | placeholder name =>
      simpa [partOfSegment, Expr.identifiersOfParts, Expr.identifiers,
        PathTemplate.argumentName?] using ih

theorem calleesOfParts_segments (segments : List Segment) :
    Expr.calleesOfParts (segments.map partOfSegment) = [] := by
  induction segments with
  | nil => rfl
  | cons segment rest ih =>
    cases segment <;> simpa [partOfSegment, Expr.calleesOfParts, Expr.callees] using ih

theorem identifiers_address (op : Operation) :
    op.address.identifiers
      = Generated.hostname
        :: ((PathTemplate.segments op.path).filterMap PathTemplate.argumentName?
          ++ if op.hasQuery then [Generated.query] else []) := by
  have hparts := identifiersOfParts_segments (PathTemplate.segments op.path)
  unfold address
  cases op.hasQuery <;>
    simp [Expr.identifiers, Expr.identifiersOfAll, hparts]

theorem callees_address (op : Operation) :
    op.address.callees = if op.hasQuery then [Generated.makeQuery] else [] := by
  have hparts := calleesOfParts_segments (PathTemplate.segments op.path)
  unfold address
  cases op.hasQuery <;>
    simp [Expr.callees, Expr.calleesOfAll, hparts]

theorem identifiers_unitFunction (op : Operation) :
    op.unitFunction.identifiers
      = op.address.identifiers
        ++ if op.payloadParameter?.isSome then [Generated.data] else [] := by
  unfold FunctionItem.identifiers unitFunction requestBody
  cases op.payloadParameter?.isSome <;>
    simp [Statement.expression, Expr.identifiers, Expr.identifiersOfAll, Expr.identifiersOfMembers]

theorem callees_unitFunction (op : Operation) :
    op.unitFunction.callees = Generated.request :: op.address.callees := by
  unfold FunctionItem.callees unitFunction requestBody
  cases op.payloadParameter?.isSome <;>
    simp [Statement.expression, Expr.callees, Expr.calleesOfAll, Expr.calleesOfMembers]

/-- If the placeholders of the path are its required parameters, the body uses the arguments and
    nothing else. -/
theorem mem_identifiers_unitFunction {op : Operation} {n : String}
    (hpath : ∀ n, n ∈ PathTemplate.argumentNames op.path ↔ n ∈ op.pathParameterNames) :
    n ∈ op.unitFunction.identifiers ↔ n ∈ op.unitFunction.argumentNames := by
  have hplaceholders : n ∈ (PathTemplate.segments op.path).filterMap PathTemplate.argumentName?
      ↔ n ∈ op.pathParameterNames := by
    rw [← hpath, PathTemplate.argumentNames, Names.mem_firstSeen]
  rw [identifiers_unitFunction, identifiers_address, argumentNames_unitFunction, addedNames]
  simp only [List.mem_append, List.mem_cons, hplaceholders]
  tauto

theorem mem_callees_unitFunction {op : Operation} {n : String} :
    n ∈ op.unitFunction.callees
      ↔ n = Generated.request ∨ (op.hasQuery = true ∧ n = Generated.makeQuery) := by
  rw [callees_unitFunction, callees_address]
  cases op.hasQuery <;> simp

theorem mem_helperNames {op : Operation} {n : String} :
    n ∈ op.helperNames
      ↔ n = Generated.request ∨ (op.hasQuery = true ∧ n = Generated.makeQuery) := by
  unfold helperNames
  cases op.hasQuery <;> simp [or_comm]

/-! ## Hygiene -/

/-- The body of the function `f` of a unit `u` means what it is meant to: every identifier is an
    argument and every callee is a helper. -/
structure HygienicBody (op : Operation) (u : SourceUnit) (f : FunctionItem) : Prop where
  arguments_nodup : f.argumentNames.Nodup
  arguments_identifier : ∀ n ∈ f.argumentNames, Text.isIdentifier n = true
  /-- No argument is a word that the language keeps for itself. -/
  arguments_free : ∀ n ∈ f.argumentNames, n ∉ Text.reservedWords
  identifiers_bound : ∀ n ∈ f.identifiers, n ∈ f.argumentNames
  arguments_used : ∀ n ∈ f.argumentNames, n ∈ f.identifiers
  /-- The body calls the class of requests and, if a parameter is carried by the query, the function
      that writes queries. -/
  callees_iff : ∀ n, n ∈ f.callees
    ↔ n = Generated.request
      ∨ (n = Generated.makeQuery ∧ ∃ p ∈ op.parameters, p.carrier = .query)
  /-- The unit imports every callee as a value. -/
  callees_imported : ∀ n ∈ f.callees, .value n ("../helpers/" ++ n) ∈ u.script.imports
  /-- No argument hides a callee. -/
  callees_apart : ∀ n ∈ f.callees, n ∉ f.argumentNames

theorem fitName_of_mem {op : Operation} (hfit : ∀ p ∈ op.pathParameters, op.FitName p.name)
    {n : String} (h : n ∈ op.pathParameterNames) : op.FitName n := by
  obtain ⟨p, hp, rfl⟩ := List.mem_map.mp (Names.mem_firstSeen.mp h)
  exact hfit p hp

theorem nodup_argumentNames {op : Operation}
    (hfit : ∀ p ∈ op.pathParameters, op.FitName p.name) :
    op.unitFunction.argumentNames.Nodup := by
  rw [argumentNames_unitFunction, List.nodup_cons, List.nodup_append]
  refine ⟨?_, Names.nodup_firstSeen _, op.nodup_addedNames, ?_⟩
  · intro hmem
    rcases List.mem_append.mp hmem with hpath | hadded
    · exact (fitName_of_mem hfit hpath).ne_generated (Or.inl rfl) rfl
    · exact op.hostname_not_mem_addedNames hadded
  · rintro n hpath m hadded rfl
    exact (fitName_of_mem hfit hpath).ne_generated (Or.inr (Or.inr (Or.inr hadded))) rfl

theorem isBindable_argument {op : Operation}
    (hfit : ∀ p ∈ op.pathParameters, op.FitName p.name) {n : String}
    (h : n ∈ op.unitFunction.argumentNames) : Text.isBindable n = true := by
  rw [argumentNames_unitFunction, List.mem_cons, List.mem_append] at h
  rcases h with rfl | hpath | hadded
  · decide
  · exact (fitName_of_mem hfit hpath).bindable
  · rcases mem_addedNames.mp hadded with ⟨_, rfl⟩ | ⟨_, rfl⟩ <;> decide

theorem callee_not_argument {op : Operation}
    (hfit : ∀ p ∈ op.pathParameters, op.FitName p.name) {n : String}
    (h : n ∈ op.unitFunction.callees) : n ∉ op.unitFunction.argumentNames := by
  rw [argumentNames_unitFunction, List.mem_cons, List.mem_append]
  -- The words of the generator are distinct; the path parameters keep away from all of them.
  have hwords : n ≠ Generated.hostname ∧ n ∉ op.addedNames := by
    rw [mem_addedNames]
    rcases mem_callees_unitFunction.mp h with rfl | ⟨_, rfl⟩ <;>
      simp [Generated.request, Generated.makeQuery, Generated.hostname, Generated.query,
        Generated.data]
  have hpath : n ∉ op.pathParameterNames := by
    intro hmem
    have hname := fitName_of_mem hfit hmem
    rcases mem_callees_unitFunction.mp h with hrequest | hmake
    · exact hname.ne_generated (Or.inr (Or.inl rfl)) hrequest
    · exact hname.ne_generated (Or.inr (Or.inr (Or.inl ⟨hmake.1, rfl⟩))) hmake.2
  rintro (hhost | hmem | hadded)
  · exact hwords.1 hhost
  · exact hpath hmem
  · exact hwords.2 hadded

theorem callee_imported {op : Operation} {n : String} (h : n ∈ op.unitFunction.callees) :
    .value n ("../helpers/" ++ n) ∈ op.sourceUnit.script.imports := by
  have hhelper : n ∈ op.helperNames :=
    mem_helperNames.mpr (mem_callees_unitFunction.mp h)
  rw [imports_sourceUnit]
  exact List.mem_append.mpr (Or.inl (List.mem_map_of_mem hhelper))

/-- **Hygiene**: in the function of an accepted operation every identifier means one argument, every
    argument is used, and every callee means its helper. -/
theorem hygienicBody_of_compile {op : Operation} {u : SourceUnit}
    (accepted : op.compile.result = .ok u) :
    ∃ f, u.script.function? = some f ∧ HygienicBody op u f := by
  obtain ⟨hpath, hfit, rfl⟩ := compile_eq_ok_iff.mp accepted
  refine ⟨op.unitFunction, op.function?_sourceUnit, ?_⟩
  have hbindable : ∀ n ∈ op.unitFunction.argumentNames,
      Text.isIdentifier n = true ∧ n ∉ Text.reservedWords := by
    intro n hn
    simpa [Text.isBindable] using isBindable_argument hfit hn
  exact {
    arguments_nodup := nodup_argumentNames hfit
    arguments_identifier := fun n hn => (hbindable n hn).1
    arguments_free := fun n hn => (hbindable n hn).2
    identifiers_bound := fun n hn => (mem_identifiers_unitFunction hpath).mp hn
    arguments_used := fun n hn => (mem_identifiers_unitFunction hpath).mpr hn
    callees_iff := by
      intro n
      rw [mem_callees_unitFunction, hasQuery_iff, and_comm]
    callees_imported := fun n hn => callee_imported hn
    callees_apart := fun n hn => callee_not_argument hfit hn }

/-- An operation whose path parameters have names that other operations must avoid. -/
def borderlineNames : Operation where
  id := "findPets"
  path := "/\x7bdata\x7d/pets/\x7b$id\x7d/\x7bdata\x7d"
  parameters :=
    [{ name := "$id", carrier := .path, required := true, kind := some "integer" },
     { name := "data", carrier := .path, required := true },
     { name := "tag", carrier := .query, kind := some "string" },
     { name := "data", carrier := .path, required := true, kind := some "string" }]

theorem hygienicBody_borderlineNames :
    ∃ u, borderlineNames.compile.result = .ok u
      ∧ ∃ f, u.script.function? = some f ∧ HygienicBody borderlineNames u f :=
  ⟨_, rfl, hygienicBody_of_compile rfl⟩

end ClientGen.Operation
