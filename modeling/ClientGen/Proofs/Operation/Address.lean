import ClientGen.Proofs.Operation.Hygiene
import ClientGen.Proofs.PathTemplate.Filling
import ClientGen.Proofs.Script.Evaluation

/-! # The address of a request

  The function of a unit describes a request, and one member of the description is its address. Its
  value is a text: the host, the path of the operation with the arguments filled in, and the query
  if the operation has one.

  * The path is a template, so arguments are written and never added, numbers included.
  * A path parameter is an argument of the function, so every placeholder has a value. -/

namespace ClientGen

/-- The expression for a member of the object from which a function constructs its result. -/
def FunctionItem.described? (f : FunctionItem) (member : String) : Option Expr :=
  match f.body with
  | [.result (.construct _ [.object members])] => members.lookup member
  | _ => none

namespace Operation

variable {ν : Type} {numbers : Numbers ν} {outer : Scope ν} {given : String → Value ν}
  {value : String → String}

/-! ## The path -/

/-- A template made of segments joins what stands for them. -/
theorem join?_segments {scope : Scope ν} {segments : List Segment}
    (h : ∀ n ∈ segments.filterMap PathTemplate.argumentName?,
      ∃ v, scope.value n = some v ∧ v.form? numbers = some (value n)) :
    Expr.join? numbers scope (segments.map partOfSegment)
      = some (String.join (segments.map (Segment.filled value))) := by
  induction segments with
  | nil => rfl
  | cons segment rest ih =>
    cases segment with
    | literal text =>
      rw [List.filterMap_cons_none rfl] at h
      simp [partOfSegment, Expr.join?, Segment.filled, ih h]
    | placeholder name =>
      have hnames : (Segment.placeholder name :: rest).filterMap PathTemplate.argumentName?
          = name :: rest.filterMap PathTemplate.argumentName? := List.filterMap_cons_some rfl
      rw [hnames, List.forall_mem_cons] at h
      -- The name in front has an argument, and so have the names behind it.
      obtain ⟨⟨v, hvalue, hform⟩, hrest⟩ := h
      simp [partOfSegment, Expr.join?, Expr.eval?, Segment.filled, hvalue, hform, ih hrest]

/-- The placeholders of a path have the values of the arguments of their names. -/
theorem join?_path {op : Operation}
    (hpath : ∀ n, n ∈ PathTemplate.argumentNames op.path ↔ n ∈ op.pathParameterNames)
    (hvalue : ∀ n ∈ op.pathParameterNames, (given n).form? numbers = some (value n)) :
    Expr.join? numbers (op.unitFunction.scope outer given)
        ((PathTemplate.segments op.path).map partOfSegment)
      = some (PathTemplate.filled value op.path) := by
  apply join?_segments
  intro n hn
  have hparameter : n ∈ op.pathParameterNames := by
    rw [← hpath, PathTemplate.argumentNames, Names.mem_firstSeen]
    exact hn
  -- The argument hides what stands around the function under its name.
  have hargument : n ∈ op.unitFunction.argumentNames := by
    rw [argumentNames_unitFunction]
    exact List.mem_cons_of_mem _ (List.mem_append.mpr (Or.inl hparameter))
  exact ⟨given n, FunctionItem.value_scope hargument, hvalue n hparameter⟩

/-! ## The query -/

/-- The function that writes queries is called with the argument of the query. -/
theorem eval?_makeQuery {op : Operation} {v : Value ν}
    (hfit : ∀ p ∈ op.pathParameters, op.FitName p.name) (hquery : op.hasQuery = true)
    (hcall : outer.call Generated.makeQuery [given Generated.query] = some v) :
    (Expr.call Generated.makeQuery [.ident Generated.query]).eval? numbers
      (op.unitFunction.scope outer given) = some v := by
  have hargument : Generated.query ∈ op.unitFunction.argumentNames := by
    have hadded : Generated.query ∈ op.addedNames := mem_addedNames.mpr (Or.inl ⟨hquery, rfl⟩)
    rw [argumentNames_unitFunction]
    exact List.mem_cons_of_mem _ (List.mem_append.mpr (Or.inr hadded))
  have hcallee : Generated.makeQuery ∉ op.unitFunction.argumentNames :=
    callee_not_argument hfit (mem_callees_unitFunction.mpr (Or.inr ⟨hquery, rfl⟩))
  simp [Expr.eval?, Expr.evalAll?, FunctionItem.value_scope hargument,
    FunctionItem.call_scope _ hcallee, hcall]

/-! ## The address -/

theorem described?_unitFunction (op : Operation) :
    op.unitFunction.described? "url" = some op.address := rfl

/-- What the address is if the query is written as `query`. -/
def addressText (op : Operation) (host : String) (value : String → String) (query : String) :
    String :=
  host ++ PathTemplate.filled value op.path ++ if op.hasQuery then query else ""

theorem eval?_address {op : Operation} {host query : String}
    (hpath : ∀ n, n ∈ PathTemplate.argumentNames op.path ↔ n ∈ op.pathParameterNames)
    (hfit : ∀ p ∈ op.pathParameters, op.FitName p.name)
    (hhost : (given Generated.hostname).form? numbers = some host)
    (hvalue : ∀ n ∈ op.pathParameterNames, (given n).form? numbers = some (value n))
    (hwritten : op.hasQuery = true →
      ∃ v, outer.call Generated.makeQuery [given Generated.query] = some v
        ∧ v.form? numbers = some query) :
    op.address.eval? numbers (op.unitFunction.scope outer given)
      = some (.text (op.addressText host value query)) := by
  have hhostname : (Expr.ident Generated.hostname).eval? numbers (op.unitFunction.scope outer given)
      = some (given Generated.hostname) := by
    rw [Expr.eval?]
    apply FunctionItem.value_scope
    rw [argumentNames_unitFunction]
    exact List.mem_cons_self ..
  have htemplate : (Expr.template ((PathTemplate.segments op.path).map partOfSegment)).eval? numbers
      (op.unitFunction.scope outer given) = some (.text (PathTemplate.filled value op.path)) := by
    rw [Expr.eval?, join?_path hpath hvalue]
    rfl
  unfold address addressText
  -- Whatever follows the host is a text, so the host is written in front of it and not added to it.
  cases hquery : op.hasQuery with
  | false =>
    simp only [Bool.false_eq_true, if_false, String.append_empty]
    rw [Expr.eval?_concat hhostname htemplate]
    exact Value.plus?_text_right hhost
  | true =>
    obtain ⟨v, hcall, hform⟩ := hwritten hquery
    have hmiddle := Expr.eval?_concat htemplate (eval?_makeQuery hfit hquery hcall)
    rw [Value.plus?_text_left hform] at hmiddle
    simp only [if_true, String.append_assoc]
    rw [Expr.eval?_concat hhostname hmiddle]
    exact Value.plus?_text_right hhost

/-- **The address**: the function of an accepted operation, applied to a host, to path arguments
    that are texts or numbers and to the values of a query, describes the filled path. Where the
    braces of the path alternate, filling replaces each name between braces. -/
theorem address_of_compile {op : Operation} {u : SourceUnit} {host query : String}
    (accepted : op.compile.result = .ok u)
    (hhost : (given Generated.hostname).form? numbers = some host)
    (hvalue : ∀ n ∈ op.pathParameterNames, (given n).form? numbers = some (value n))
    (hwritten : op.hasQuery = true →
      ∃ v, outer.call Generated.makeQuery [given Generated.query] = some v
        ∧ v.form? numbers = some query) :
    ∃ f url, u.script.function? = some f ∧ f.described? "url" = some url
      ∧ url.eval? numbers (f.scope outer given) = some (.text (op.addressText host value query))
      ∧ (PathTemplate.BracesAlternate op.path.toList → ∀ text,
          PathTemplate.Filling value op.path.toList text
            ↔ text = (PathTemplate.filled value op.path).toList) := by
  obtain ⟨hpath, hfit, rfl⟩ := compile_eq_ok_iff.mp accepted
  exact ⟨op.unitFunction, op.address, op.function?_sourceUnit, op.described?_unitFunction,
    eval?_address hpath hfit hhost hvalue hwritten, fun h _ => PathTemplate.filling_iff h⟩

/-- An operation with placeholders at both ends of its path, side by side and repeated. -/
def crowdedPath : Operation where
  id := "findCopies"
  path := "\x7bid\x7d\x7bcopy\x7d/of/\x7bid\x7d"
  parameters :=
    [{ name := "copy", carrier := .path, required := true, kind := some "integer" },
     { name := "limit", carrier := .query, kind := some "integer" },
     { name := "id", carrier := .path, required := true, kind := some "integer" }]

/-- Arguments for `crowdedPath`: two numbers stand side by side. -/
def crowdedArguments (name : String) : Value Nat :=
  if name = Generated.hostname then .text "//host/"
  else if name = Generated.query then .object [("limit", .number 3)]
  else if name = "id" then .number 7
  else .number 12

def crowdedValue (name : String) : String := if name = "id" then "7" else "12"

/-- Surroundings in which every function gives back the same query. -/
def crowdedScope : Scope Nat where
  value _ := none
  call _ _ := some (.text "?limit=3")
  construct _ _ := none

theorem address_crowdedPath :
    ∃ u, crowdedPath.compile.result = .ok u ∧ ∃ f url, u.script.function? = some f
      ∧ f.described? "url" = some url
      ∧ url.eval? ⟨Nat.add, toString⟩ (f.scope crowdedScope crowdedArguments)
        = some (.text "//host/712/of/7?limit=3")
      ∧ ∀ text, PathTemplate.Filling crowdedValue crowdedPath.path.toList text
          ↔ text = "712/of/7".toList := by
  have hvalue : ∀ n ∈ crowdedPath.pathParameterNames,
      (crowdedArguments n).form? ⟨Nat.add, toString⟩ = some (crowdedValue n) := by decide
  have hhost : (crowdedArguments Generated.hostname).form? ⟨Nat.add, toString⟩
      = some "//host/" := rfl
  have hwritten : crowdedPath.hasQuery = true →
      ∃ v, crowdedScope.call Generated.makeQuery [crowdedArguments Generated.query] = some v
        ∧ v.form? ⟨Nat.add, toString⟩ = some "?limit=3" := fun _ => ⟨_, rfl, rfl⟩
  obtain ⟨f, url, hf, hurl, heval, hfilling⟩ :=
    address_of_compile (u := crowdedPath.sourceUnit) rfl hhost hvalue hwritten
  have hbraces : PathTemplate.BracesAlternate crowdedPath.path.toList := ⟨3, by decide⟩
  have hfilled : PathTemplate.filled crowdedValue crowdedPath.path = "712/of/7" := by decide
  have haddress : crowdedPath.addressText "//host/" crowdedValue "?limit=3"
      = "//host/712/of/7?limit=3" := by decide
  rw [haddress] at heval
  rw [hfilled] at hfilling
  exact ⟨_, rfl, f, url, hf, hurl, heval, hfilling hbraces⟩

end Operation

end ClientGen
