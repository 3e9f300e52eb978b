import ClientGen.Proofs.Operation.Verdict
import ClientGen.Proofs.Package.Assembly

/-! # Notices about a document

  While a package is made the author of the document is told what is ignored and what is wrong. The
  work may end early, and then the rest goes untold. `Account` says in rules which notices are
  given:

  * **Repeated ids** end the work before anything is told.
  * **Colliding definitions** end it when operations without texts for readers and all collisions
    have been told of.
  * **The first operation that is refused** ends it with its own notices. Those of the operations in
    front of it stand before them, and those behind it are not looked at.
  * **A package** comes with the notices of every operation.

  There is one account of each document (`assemble_account`). -/

namespace ClientGen.Package

variable {operations : List Operation} {definitions : List (String × Schema)}

/-! ## What is told -/

def hasText (text : Option String) : Bool := text.any fun t => t ≠ ""

/-- The notices about operations that have neither a summary nor a description: one for each. -/
def silenceNotices (operations : List Operation) : List Notice :=
  (operations.filter fun op => !hasText op.summary && !hasText op.description).map fun op =>
    .undocumented op.id op.method.name op.path

/-- The notices about definition names: one for each that agrees in lower case with a name in front
    of it. -/
def collisionNotices (names : List String) : List Notice :=
  (Names.echoes agreeInLower names).map fun echo => .definitionCollision echo.1 echo.2

/-- The notices that are given while a package is made. -/
inductive Account (operations : List Operation) (definitions : List (String × Schema)) :
    List Notice → Prop where
  | repeatedIds :
      ¬ (operations.map Operation.id).Nodup → Account operations definitions []
  | collidingDefinitions :
      (operations.map Operation.id).Nodup →
      ¬ ((OrderedMap.keys definitions).map Text.lower).Nodup →
      Account operations definitions
        (silenceNotices operations ++ collisionNotices (OrderedMap.keys definitions))
  | refused {before after : List Operation} {op : Operation} {e : Defect}
      {earlier : List (List Notice)} {last : List Notice} :
      (operations.map Operation.id).Nodup →
      ((OrderedMap.keys definitions).map Text.lower).Nodup →
      operations = before ++ op :: after →
      List.Forall₂ (fun o notices => ∃ u, o.Verdict notices (.ok u)) before earlier →
      op.Verdict last (.error e) →
      Account operations definitions (silenceNotices operations ++ (earlier.flatten ++ last))
  | package {all : List (List Notice)} :
      (operations.map Operation.id).Nodup →
      ((OrderedMap.keys definitions).map Text.lower).Nodup →
      List.Forall₂ (fun o notices => ∃ u, o.Verdict notices (.ok u)) operations all →
      Account operations definitions (silenceNotices operations ++ all.flatten)

/-! ## What is told before the units are made -/

theorem isSilent_eq (text : Option String) : Operation.isSilent text = !hasText text := by
  cases text with
  | none => rfl
  | some t => simp [Operation.isSilent, hasText]

theorem undocumentedNotices_eq (operations : List Operation) :
    undocumentedNotices operations = silenceNotices operations := by
  have hsilent : Operation.saysNothing = fun op : Operation =>
      !hasText op.summary && !hasText op.description := by
    funext op
    rw [Operation.saysNothing, isSilent_eq, isSilent_eq]
  rw [undocumentedNotices, silenceNotices, hsilent]

theorem notices_checkDefinitions (names : List String) :
    (checkDefinitions names).notices = collisionNotices names := by
  rw [collisionNotices, ← collisions_eq_echoes]
  rfl

/-- Where all lower-case forms differ, there is nothing to tell about definition names. -/
theorem collisionNotices_eq_nil {names : List String} (h : (names.map Text.lower).Nodup) :
    collisionNotices names = [] := by
  rw [collisionNotices, ← collisions_eq_echoes, collisions_eq_nil_iff.mpr h]
  rfl

theorem notices_assemble :
    (assemble operations definitions).notices
      = if (operations.map Operation.id).Nodup then
          silenceNotices operations ++
            if ((OrderedMap.keys definitions).map Text.lower).Nodup then
              (Logged.forEach Operation.compile operations).notices
            else collisionNotices (OrderedMap.keys definitions)
        else [] := by
  have hnames : (checkDefinitions (OrderedMap.keys definitions)).result = _ :=
    result_checkDefinitions
  unfold assemble
  -- The checks come one after the other, and what the first failure leaves untold is never told.
  by_cases ids : (operations.map Operation.id).Nodup
  · rw [if_pos ids, checkOperationIds_eq, if_pos ids,
      Logged.bind_of_ok (Logged.result_ofExcept _), Logged.bind_of_ok (Logged.result_tell _),
      ← undocumentedNotices_eq]
    by_cases names : ((OrderedMap.keys definitions).map Text.lower).Nodup
    · rw [if_pos names] at hnames ⊢
      rw [Logged.bind_of_ok hnames, Logged.notices_bind_pure, notices_checkDefinitions,
        collisionNotices_eq_nil names]
      rfl
    · rw [if_neg names] at hnames ⊢
      rw [Logged.bind_of_error hnames, notices_checkDefinitions]
      rfl
  · rw [if_neg ids, checkOperationIds_eq, if_neg ids,
      Logged.bind_of_error (Logged.result_ofExcept _)]
    rfl

/-! ## What is told of the operations -/

/-- The notices of operations that all become units. -/
theorem forall₂_verdict_iff {told : List (List Notice)} :
    List.Forall₂ (fun o notices => ∃ u, o.Verdict notices (.ok u)) operations told
      ↔ (∀ o ∈ operations, ∃ u, o.compile.result = .ok u)
        ∧ told = operations.map fun o => o.compile.notices := by
  -- A verdict fixes the notices, so only acceptance is left to ask for.
  have hentry : ∀ (o : Operation) (notices : List Notice),
      (∃ u, o.Verdict notices (.ok u))
        ↔ (∃ u, o.compile.result = .ok u) ∧ notices = o.compile.notices := by
    intro o notices
    simp only [← Operation.compile_eq_iff]
    constructor
    · rintro ⟨u, h⟩
      rw [h]
      exact ⟨⟨u, rfl⟩, rfl⟩
    · rintro ⟨⟨u, hu⟩, rfl⟩
      exact ⟨u, by rw [← hu]⟩
  simp only [hentry]
  induction operations generalizing told with
  | nil => simp
  | cons o rest ih =>
    rw [List.forall₂_cons_left_iff, List.forall_mem_cons, List.map_cons]
    constructor
    · rintro ⟨notices, later, ⟨ho, rfl⟩, hrest, rfl⟩
      obtain ⟨haccepted, rfl⟩ := ih.mp hrest
      exact ⟨⟨ho, haccepted⟩, rfl⟩
    · rintro ⟨⟨ho, haccepted⟩, rfl⟩
      exact ⟨_, _, ⟨ho, rfl⟩, ih.mpr ⟨haccepted, rfl⟩, rfl⟩

/-! ## The account -/

theorem account_iff {notices : List Notice} :
    (assemble operations definitions).notices = notices
      ↔ Account operations definitions notices := by
  rw [notices_assemble]
  constructor
  · rintro rfl
    by_cases ids : (operations.map Operation.id).Nodup
    · rw [if_pos ids]
      by_cases names : ((OrderedMap.keys definitions).map Text.lower).Nodup
      · rw [if_pos names]
        -- The document as a whole is in order, so the operations decide.
        cases hunits : (Logged.forEach Operation.compile operations).result with
        | error e =>
          obtain ⟨before, op, after, rfl, hbefore, hop⟩ := Logged.forEach_eq_error_iff.mp hunits
          rw [Logged.notices_forEach_of_error hbefore hop, List.flatMap_def]
          refine .refused ids names rfl (forall₂_verdict_iff.mpr ⟨hbefore, rfl⟩) (e := e) ?_
          rw [← Operation.compile_eq_iff, ← hop]
        | ok units =>
          have haccepted := forall_accepted_iff.mpr ⟨units, Logged.forEach_eq_ok_iff.mp hunits⟩
          rw [Logged.notices_forEach haccepted, List.flatMap_def]
          exact .package ids names (forall₂_verdict_iff.mpr ⟨haccepted, rfl⟩)
      · rw [if_neg names]
        exact .collidingDefinitions ids names
    · rw [if_neg ids]
      exact .repeatedIds ids
  · intro h
    cases h with
    | repeatedIds ids => rw [if_neg ids]
    | collidingDefinitions ids names => rw [if_pos ids, if_neg names]
    | refused ids names hsplit hearlier hlast =>
      obtain ⟨hbefore, rfl⟩ := forall₂_verdict_iff.mp hearlier
      have hop := Operation.compile_eq_iff.mpr hlast
      have hresult := congrArg Logged.result hop
      rw [if_pos ids, if_pos names, hsplit, Logged.notices_forEach_of_error hbefore hresult, hop,
        List.flatMap_def]
    | package ids names hall =>
      obtain ⟨haccepted, rfl⟩ := forall₂_verdict_iff.mp hall
      rw [if_pos ids, if_pos names, Logged.notices_forEach haccepted, List.flatMap_def]

/-! ## Errors -/

theorem filter_error_eq_nil {notices : List Notice}
    (h : ∀ notice ∈ notices, notice.severity = .warning) :
    notices.filter (fun notice => notice.severity = .error) = [] := by
  rw [List.filter_eq_nil_iff]
  intro notice hnotice
  rw [h notice hnotice]
  decide

theorem warning_of_silence (operations : List Operation) :
    ∀ notice ∈ silenceNotices operations, notice.severity = .warning :=
  List.forall_mem_map.mpr fun _ _ => rfl

/-- Nothing that is told of an operation is an error. -/
theorem warning_of_verdict {op : Operation} {notices : List Notice}
    {r : Except Defect SourceUnit} (h : op.Verdict notices r) :
    ∀ notice ∈ notices, notice.severity = .warning := by
  have hpayload : ∀ notice ∈ op.payloadNotices, notice.severity = .warning :=
    List.forall_mem_map.mpr fun _ _ => rfl
  have hrepetition : ∀ notice ∈ op.repetitionNotices, notice.severity = .warning :=
    List.forall_mem_map.mpr fun _ _ => rfl
  cases h with
  | mismatch => simp
  | refused => exact hpayload
  | accepted => exact List.forall_mem_append.mpr ⟨hpayload, hrepetition⟩

theorem warning_of_units {told : List (List Notice)}
    (h : List.Forall₂ (fun o notices => ∃ u, o.Verdict notices (.ok u)) operations told) :
    ∀ notice ∈ told.flatten, notice.severity = .warning := by
  induction h with
  | nil => simp
  | cons hfirst _ ih =>
    obtain ⟨u, hu⟩ := hfirst
    rw [List.flatten_cons]
    exact List.forall_mem_append.mpr ⟨warning_of_verdict hu, ih⟩

theorem filter_error_collisionNotices (names : List String) :
    (collisionNotices names).filter (fun notice => notice.severity = .error)
      = collisionNotices names := by
  rw [List.filter_eq_self]
  exact List.forall_mem_map.mpr fun _ _ => rfl

/-- The errors in an account are the collisions. -/
theorem Account.filter_error {notices : List Notice}
    (h : Account operations definitions notices) :
    notices.filter (fun notice => notice.severity = .error)
      = if (operations.map Operation.id).Nodup then
          collisionNotices (OrderedMap.keys definitions)
        else [] := by
  have hsilence :
      (silenceNotices operations).filter (fun notice => notice.severity = .error) = [] :=
    filter_error_eq_nil (warning_of_silence operations)
  -- Only collisions are errors. What the operations tell are warnings, also when one is refused.
  cases h with
  | repeatedIds ids =>
    rw [if_neg ids]
    rfl
  | collidingDefinitions ids names =>
    rw [if_pos ids, List.filter_append, hsilence, filter_error_collisionNotices]
    rfl
  | refused ids names hsplit hearlier hlast =>
    rw [if_pos ids, collisionNotices_eq_nil names, List.filter_append, List.filter_append,
      hsilence, filter_error_eq_nil (warning_of_units hearlier),
      filter_error_eq_nil (warning_of_verdict hlast)]
    rfl
  | package ids names hall =>
    rw [if_pos ids, collisionNotices_eq_nil names, List.filter_append, hsilence,
      filter_error_eq_nil (warning_of_units hall)]
    rfl

/-- **The account of a document**: the notices given while a package is made are those that the
    rules of `Account` name, in this order, and no others. Errors among them are only those about
    definition names, one for each name that agrees in lower case with an earlier one, and there are
    none if an id repeats. -/
theorem assemble_account (operations : List Operation) (definitions : List (String × Schema)) :
    (∀ notices, (assemble operations definitions).notices = notices
        ↔ Account operations definitions notices)
      ∧ (assemble operations definitions).notices.filter (fun notice => notice.severity = .error)
        = if (operations.map Operation.id).Nodup then
            collisionNotices (OrderedMap.keys definitions)
          else [] :=
  ⟨fun _ => account_iff, (account_iff.mp rfl).filter_error⟩

/-- Of three operations the second is refused for a name. Its payloads are told of before that, its
    repeated parameter is not, and of the third there is only its silence to tell. -/
example :
    let payloads : List Parameter :=
      [{ name := "pet", carrier := .body }, { name := "photo", carrier := .formData }]
    let repeats : List Parameter :=
      [{ name := "id", carrier := .path, required := true },
        { name := "id", carrier := .path, required := true }]
    let first : Operation :=
      { id := "first", path := "/\x7bid\x7d", summary := some "",
        parameters := repeats ++ payloads }
    let second : Operation :=
      { id := "second", path := "/\x7bid\x7d/\x7bdata\x7d", summary := some "Refused",
        parameters :=
          repeats ++ [{ name := "data", carrier := .path, required := true }] ++ payloads }
    let third : Operation := { id := "third", parameters := payloads }
    (assemble [first, second, third] []).notices
      = [.undocumented "first" "GET" "/\x7bid\x7d", .undocumented "third" "GET" "",
        .extraPayload "first" "photo" "pet", .repeatedPathParameter "first" "id",
        .extraPayload "second" "photo" "pet"] := rfl

end ClientGen.Package
