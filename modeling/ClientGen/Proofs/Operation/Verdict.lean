import ClientGen.Proofs.Logged.FirstFailure
import ClientGen.Proofs.Names.Echoes
import ClientGen.Proofs.Operation.Accepted

/-! # Verdicts on operations

  An operation is refused or becomes a unit, and on the way notices are given. `Verdict` says in
  rules what comes of it:

  * **Mismatch**: the placeholders of the path are not the required path parameters. Nothing else is
    looked at.
  * **Refused**: a path parameter cannot name an argument; the first such one is reported. Payloads
    behind the first one are noticed before the names are looked at.
  * **Accepted**: everything is in order. Repeated path parameters are noticed last.

  The conditions are about the operation alone and not about the walk that checks it. They exclude
  each other and leave nothing out, so there is one verdict (`compile_eq_iff`). -/

namespace ClientGen.Operation

/-! ## What is looked at -/

/-- The names in the placeholders of the path, in order and with repetitions. -/
def placeholders (op : Operation) : List String :=
  (PathTemplate.segments op.path).filterMap PathTemplate.argumentName?

/-- The placeholders of the path and its required parameters have the same names. -/
def PathAgrees (op : Operation) : Prop :=
  ∀ n, n ∈ op.placeholders ↔ ∃ p ∈ op.pathParameters, p.name = n

/-- The words that the function of an operation uses for its own ends. -/
inductive GeneratedName (op : Operation) : String → Prop where
  /-- The argument of the host is always there. -/
  | hostname : GeneratedName op Generated.hostname
  | request : GeneratedName op Generated.request
  /-- The argument of the query is there if a parameter is carried by the query. -/
  | query {p : Parameter} : p ∈ op.parameters → p.carrier = .query →
      GeneratedName op Generated.query
  | makeQuery {p : Parameter} : p ∈ op.parameters → p.carrier = .query →
      GeneratedName op Generated.makeQuery
  /-- The argument of the payload is there if a parameter is carried by a form or by the body. -/
  | data {p : Parameter} : p ∈ op.parameters → p.carrier = .formData ∨ p.carrier = .body →
      GeneratedName op Generated.data

/-- What is wrong with the name of a path parameter. -/
inductive NameFault (op : Operation) (name : String) : Defect → Prop where
  /-- It is no identifier, or the generated language keeps it for itself. -/
  | unfit : Text.isIdentifier name = false ∨ name ∈ Text.reservedWords →
      NameFault op name (.unfitArgument op.id name)
  /-- The function uses it for its own ends. -/
  | reserved : Text.isIdentifier name = true → name ∉ Text.reservedWords →
      op.GeneratedName name → NameFault op name (.reservedArgument op.id name)

/-- The notices about payloads: one for each behind the first. -/
def payloadNotices (op : Operation) : List Notice :=
  (Names.echoes (fun _ _ => true) op.payloadParameters).map fun echo =>
    .extraPayload op.id echo.2.name echo.1.name

/-- The notices about path parameters: one for each whose name was declared before. -/
def repetitionNotices (op : Operation) : List Notice :=
  (Names.echoes (fun p q => p.name = q.name) op.pathParameters).map fun echo =>
    .repeatedPathParameter op.id echo.2.name

/-- What comes of an operation: the notices given on the way, and a defect or the unit. -/
inductive Verdict (op : Operation) : List Notice → Except Defect SourceUnit → Prop where
  /-- The placeholders of the path are not its required parameters. Both are reported, each name
      once, in the order in which the names appear first. -/
  | mismatch :
      ¬ op.PathAgrees →
      Verdict op [] (.error (.pathMismatch op.id op.path op.placeholders.eraseDups
        (op.pathParameters.map Parameter.name).eraseDups))
  /-- Something is wrong with the name of a path parameter, and nothing with those declared before
      it. -/
  | refused {before after : List Parameter} {p : Parameter} {e : Defect} :
      op.PathAgrees →
      op.pathParameters = before ++ p :: after →
      (∀ q ∈ before, ∀ d, ¬ op.NameFault q.name d) →
      op.NameFault p.name e →
      Verdict op op.payloadNotices (.error e)
  | accepted :
      op.PathAgrees →
      (∀ p ∈ op.pathParameters, ∀ d, ¬ op.NameFault p.name d) →
      Verdict op (op.payloadNotices ++ op.repetitionNotices) (.ok op.sourceUnit)

variable {op : Operation}

/-! ## The checks -/

theorem argumentNames_eq (op : Operation) :
    PathTemplate.argumentNames op.path = op.placeholders.eraseDups :=
  Names.firstSeen_eq_eraseDups op.placeholders

theorem pathParameterNames_eq (op : Operation) :
    op.pathParameterNames = (op.pathParameters.map Parameter.name).eraseDups :=
  Names.firstSeen_eq_eraseDups _

theorem pathAgrees_iff : op.PathAgrees ↔ op.checkPathParameters = .ok () := by
  rw [checkPathParameters_eq_ok_iff, argumentNames_eq, pathParameterNames_eq]
  simp only [PathAgrees, List.mem_eraseDups, List.mem_map]

/-- The check of the path tells what is on either side. -/
theorem checkPathParameters_eq_error (h : ¬ op.PathAgrees) :
    op.checkPathParameters = .error (.pathMismatch op.id op.path op.placeholders.eraseDups
      (op.pathParameters.map Parameter.name).eraseDups) := by
  rw [pathAgrees_iff, checkPathParameters] at h
  rw [checkPathParameters, ← argumentNames_eq, ← pathParameterNames_eq]
  exact if_neg fun hsame => h (if_pos hsame)

theorem generatedName_iff {n : String} :
    isGeneratedName op.hasQuery (!op.payloadParameters.isEmpty) n = true ↔ op.GeneratedName n := by
  simp only [isGeneratedName, Bool.or_eq_true, Bool.and_eq_true, decide_eq_true_eq, hasQuery_iff,
    hasPayload_iff]
  constructor
  · rintro (((rfl | rfl) | ⟨⟨p, hp, hcarrier⟩, rfl | rfl⟩) | ⟨⟨p, hp, hcarrier⟩, rfl⟩)
    · exact .hostname
    · exact .request
    · exact .query hp hcarrier
    · exact .makeQuery hp hcarrier
    · exact .data hp hcarrier
  · intro h
    cases h with
    | hostname => exact .inl (.inl (.inl rfl))
    | request => exact .inl (.inl (.inr rfl))
    | query hp hcarrier => exact .inl (.inr ⟨⟨_, hp, hcarrier⟩, .inl rfl⟩)
    | makeQuery hp hcarrier => exact .inl (.inr ⟨⟨_, hp, hcarrier⟩, .inr rfl⟩)
    | data hp hcarrier => exact .inr ⟨⟨_, hp, hcarrier⟩, rfl⟩

theorem not_isBindable_iff {n : String} :
    (!Text.isBindable n) = true ↔ Text.isIdentifier n = false ∨ n ∈ Text.reservedWords := by
  simp [Text.isBindable]

theorem checkPathName_eq_error_iff {n : String} {e : Defect} :
    op.checkPathName n = .error e ↔ op.NameFault n e := by
  unfold checkPathName
  constructor
  · intro h
    split at h
    · next hunfit =>
      cases h
      exact .unfit (not_isBindable_iff.mp hunfit)
    · next hfit =>
      -- The second check is made only on names that passed the first.
      rw [not_isBindable_iff, not_or, Bool.not_eq_false] at hfit
      split at h
      · next hgenerated =>
        cases h
        exact .reserved hfit.1 hfit.2 (generatedName_iff.mp hgenerated)
      · cases h
  · intro h
    cases h with
    | unfit hunfit => exact if_pos (not_isBindable_iff.mpr hunfit)
    | reserved hidentifier hfree hname =>
      have hfit : ¬ (!Text.isBindable n) = true := by
        rw [not_isBindable_iff, not_or, Bool.not_eq_false]
        exact ⟨hidentifier, hfree⟩
      rw [if_neg hfit, if_pos (generatedName_iff.mpr hname)]

theorem checkPathName_eq_ok_iff_noFault {n : String} :
    op.checkPathName n = .ok () ↔ ∀ d, ¬ op.NameFault n d := by
  simp only [← checkPathName_eq_error_iff]
  cases op.checkPathName n with
  | error e => simp
  | ok _ => simp

/-- The names are checked one after the other, up to the first that something is wrong with. -/
theorem checkPathNames_eq_error_iff {e : Defect} :
    op.checkPathNames = .error e
      ↔ Logged.FailsFirst (fun p : Parameter => Logged.ofExcept (op.checkPathName p.name))
          op.pathParameters e := by
  rw [checkPathNames, List.forM_eq_forM]
  induction op.pathParameters with
  | nil => simp [Logged.FailsFirst, pure, Except.pure]
  | cons p rest ih =>
    rw [List.forM_cons]
    -- The check of the first name ends the walk or leaves it to the others.
    cases hp : op.checkPathName p.name with
    | error d =>
      rw [Logged.failsFirst_cons_of_error hp]
      simp [bind, Except.bind]
    | ok _ =>
      rw [Logged.failsFirst_cons_of_ok hp, ← ih]
      rfl

/-! ## The notices -/

theorem notices_payload (op : Operation) : op.payload.notices = op.payloadNotices := by
  unfold payload payloadNotices Names.echoes
  cases op.payloadParameters with
  | nil => rfl
  | cons first extras =>
    -- The first payload is no echo, and all others are echoes of it.
    have hextras := Names.echoesAfter_of_agree (fun _ _ => rfl) first [] extras
    rw [Names.echoesAfter, List.nil_append, hextras]
    simp

/-- The walk over the path parameters notices the echoes among them. The names in `seen` are those
    of the parameters met before. -/
theorem notices_pathArguments (id : String) (parameters : List Parameter) :
    ∀ (seen links : List String) (before : List Parameter),
      (∀ n, n ∈ seen ↔ ∃ q ∈ before, q.name = n) →
      (pathArguments id seen links parameters).notices
        = (Names.echoesAfter (fun p q => p.name = q.name) before parameters).map fun echo =>
            .repeatedPathParameter id echo.2.name := by
  -- The invariant: `seen` holds the names of the parameters in `before`, and nothing else.
  induction parameters with
  | nil =>
    intro seen links before _
    rfl
  | cons p rest ih =>
    intro seen links before hseen
    unfold pathArguments
    rw [Names.echoesAfter, List.map_append]
    cases hfind : before.find? fun q => q.name = p.name with
    | some q =>
      have hmem : p.name ∈ seen :=
        (hseen _).mpr ⟨q, List.mem_of_find?_eq_some hfind, by simpa using List.find?_some hfind⟩
      -- A repeated parameter leaves `seen` as it is, and its name is among those before.
      have hnext : ∀ n, n ∈ seen ↔ ∃ r ∈ before ++ [p], r.name = n := by
        intro n
        rw [hseen]
        simp only [List.mem_append, List.mem_singleton, or_and_right, exists_or, exists_eq_left]
        refine ⟨Or.inl, ?_⟩
        rintro (hbefore | rfl)
        · exact hbefore
        · exact (hseen _).mp hmem
      rw [if_pos hmem, Logged.bind_of_ok (Logged.result_tell _), ih seen links _ hnext]
      rfl
    | none =>
      have hnew : p.name ∉ seen := by
        rw [hseen]
        simpa using hfind
      have hnext : ∀ n, n ∈ p.name :: seen ↔ ∃ r ∈ before ++ [p], r.name = n := by
        intro n
        rw [List.mem_cons, hseen]
        simp only [List.mem_append, List.mem_singleton, or_and_right, exists_or, exists_eq_left]
        rw [or_comm, eq_comm]
      rw [if_neg hnew, declaredInto_eq]
      dsimp only
      rw [Logged.bind_of_ok (result_pathArguments id rest _ _), ih _ _ _ hnext]
      exact List.append_nil _

/-! ## The verdict -/

theorem compile_of_mismatch {e : Defect} (h : op.checkPathParameters = .error e) :
    op.compile = ⟨[], .error e⟩ := by
  unfold compile
  rw [Logged.bind_of_error (x := Logged.ofExcept op.checkPathParameters) h]
  rfl

theorem compile_of_refused {e : Defect} (hpath : op.checkPathParameters = .ok ())
    (h : op.checkPathNames = .error e) : op.compile = ⟨op.payloadNotices, .error e⟩ := by
  unfold compile
  rw [Logged.bind_of_ok (x := Logged.ofExcept op.checkPathParameters) hpath,
    Logged.bind_of_ok op.result_payload,
    Logged.bind_of_error (x := Logged.ofExcept op.checkPathNames) h, notices_payload]
  simp [Logged.ofExcept]

theorem compile_of_accepted (hpath : op.checkPathParameters = .ok ())
    (h : op.checkPathNames = .ok ()) :
    op.compile = ⟨op.payloadNotices ++ op.repetitionNotices, .ok op.sourceUnit⟩ := by
  have hresult : op.compile.result = .ok op.sourceUnit := by
    rw [result_compile, hpath, h]
    rfl
  have hrepeated : (pathArguments op.id [] [] op.pathParameters).notices = op.repetitionNotices :=
    notices_pathArguments op.id op.pathParameters [] [] [] (by simp)
  have hnotices : op.compile.notices = op.payloadNotices ++ op.repetitionNotices := by
    -- Every stage succeeds, so the notices are those of the stages one after the other.
    unfold compile
    rw [Logged.bind_of_ok (x := Logged.ofExcept op.checkPathParameters) hpath,
      Logged.bind_of_ok op.result_payload,
      Logged.bind_of_ok (x := Logged.ofExcept op.checkPathNames) h,
      Logged.bind_of_ok (result_pathArguments op.id op.pathParameters [] []),
      notices_payload, hrepeated]
    simp [Logged.ofExcept]
    rfl
  rw [← hresult, ← hnotices]

/-- An operation comes out as the rules say, and in no other way. -/
theorem compile_eq_iff {notices : List Notice} {r : Except Defect SourceUnit} :
    op.compile = ⟨notices, r⟩ ↔ op.Verdict notices r := by
  constructor
  · intro h
    -- The path is checked first, and the names only if it passes.
    by_cases hpath : op.PathAgrees
    · have hcheck := pathAgrees_iff.mp hpath
      cases hnames : op.checkPathNames with
      | error e =>
        obtain ⟨rfl, rfl⟩ := Logged.mk.inj ((compile_of_refused hcheck hnames).symm.trans h)
        obtain ⟨before, p, after, hsplit, hbefore, hp⟩ := checkPathNames_eq_error_iff.mp hnames
        refine .refused hpath hsplit ?_ (checkPathName_eq_error_iff.mp hp)
        intro q hq
        obtain ⟨_, hfit⟩ := hbefore q hq
        exact checkPathName_eq_ok_iff_noFault.mp hfit
      | ok _ =>
        obtain ⟨rfl, rfl⟩ := Logged.mk.inj ((compile_of_accepted hcheck hnames).symm.trans h)
        refine .accepted hpath ?_
        intro p hp
        rw [← checkPathName_eq_ok_iff_noFault, checkPathName_eq_ok_iff]
        exact checkPathNames_eq_ok_iff.mp hnames p hp
    · have hcompile := compile_of_mismatch (checkPathParameters_eq_error hpath)
      obtain ⟨rfl, rfl⟩ := Logged.mk.inj (hcompile.symm.trans h)
      exact .mismatch hpath
  · intro h
    cases h with
    | mismatch hpath => exact compile_of_mismatch (checkPathParameters_eq_error hpath)
    | refused hpath hsplit hbefore hp =>
      refine compile_of_refused (pathAgrees_iff.mp hpath) (checkPathNames_eq_error_iff.mpr ?_)
      refine ⟨_, _, _, hsplit, ?_, checkPathName_eq_error_iff.mpr hp⟩
      intro q hq
      exact ⟨(), checkPathName_eq_ok_iff_noFault.mpr (hbefore q hq)⟩
    | accepted hpath hfit =>
      refine compile_of_accepted (pathAgrees_iff.mp hpath) (checkPathNames_eq_ok_iff.mpr ?_)
      intro p hp
      rw [← checkPathName_eq_ok_iff, checkPathName_eq_ok_iff_noFault]
      exact hfit p hp

theorem result_compile_iff {r : Except Defect SourceUnit} :
    op.compile.result = r ↔ ∃ notices, op.Verdict notices r := by
  simp only [← compile_eq_iff]
  constructor
  · rintro rfl
    exact ⟨op.compile.notices, rfl⟩
  · rintro ⟨notices, h⟩
    rw [h]

/-- No fault of a name is a mismatch. -/
theorem NameFault.ne_pathMismatch {n id path : String} {e : Defect}
    {placeholders parameters : List String} (h : op.NameFault n e) :
    e ≠ .pathMismatch id path placeholders parameters := by
  cases h <;> exact Defect.noConfusion

/-- **Verdicts**: an operation is refused for a mismatch exactly if the placeholders of its path are
    not its required path parameters, and it becomes a unit exactly if they are and nothing is wrong
    with the name of any of them. In every case it comes out as the rules of `Verdict` say, with the
    defect that they name. -/
theorem compile_verdict (op : Operation) :
    ((∃ id path placeholders parameters,
          op.compile.result = .error (.pathMismatch id path placeholders parameters))
        ↔ ¬ op.PathAgrees)
      ∧ ((∃ u, op.compile.result = .ok u)
        ↔ op.PathAgrees ∧ ∀ p ∈ op.pathParameters, ∀ d, ¬ op.NameFault p.name d)
      ∧ ∀ r, op.compile.result = r ↔ ∃ notices, op.Verdict notices r := by
  refine ⟨?_, ?_, fun r => result_compile_iff⟩
  · simp only [result_compile_iff]
    constructor
    · rintro ⟨id, path, placeholders, parameters, notices, h⟩
      cases h with
      | mismatch hpath => exact hpath
      | refused _ _ _ hp => exact absurd rfl hp.ne_pathMismatch
    · intro hpath
      exact ⟨_, _, _, _, _, .mismatch hpath⟩
  · simp only [result_compile_iff]
    constructor
    · rintro ⟨u, notices, h⟩
      cases h with
      | accepted hpath hfit => exact ⟨hpath, hfit⟩
    · rintro ⟨hpath, hfit⟩
      exact ⟨_, _, .accepted hpath hfit⟩

/-- A path that is cut into odd placeholders: one name twice, an empty one, and one that is never
    closed. -/
example :
    let op : Operation :=
      { id := "odd", path := "/\x7bb\x7d/\x7ba\x7d\x7bb\x7d\x7b\x7d\x7bc",
        parameters := [{ name := "b", carrier := .path, required := true },
          { name := "a", carrier := .path }, { name := "b", carrier := .path, required := true }] }
    op.compile.result
      = .error (.pathMismatch op.id op.path ["b", "a", "", "c"] ["b"]) := rfl

end ClientGen.Operation
