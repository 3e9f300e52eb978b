import ClientGen.Proofs.Logged.FirstFailure
import ClientGen.Proofs.Names.Repeated
import ClientGen.Proofs.Operation.Accepted
import ClientGen.Proofs.Package.Collisions

/-! # Assembly of packages

  A package is made as a whole or not at all. `Assembly` says in rules what becomes of operations
  and definitions:

  * **Repeated ids** are reported before everything else.
  * **Colliding definitions** are reported next.
  * **The first operation that is refused** is reported if the document as a whole is in order.
  * **The package** is made if there is no such operation either.

  The conditions of the rules exclude each other and leave nothing out, so there is one outcome
  (`assemble_allOrNothing`). -/

namespace ClientGen.Package

variable {operations : List Operation} {definitions : List (String × Schema)}

/-! ## The checks of the whole document -/

theorem checkOperationIds_eq {ids : List String} :
    checkOperationIds ids
      = if ids.Nodup then .ok () else .error (.repeatedIds (Names.repeated ids)) := by
  have hempty : (Names.repeated ids).isEmpty = true ↔ ids.Nodup := by
    rw [List.isEmpty_iff, Names.repeated_eq_nil_iff]
  unfold checkOperationIds
  by_cases h : ids.Nodup
  · rw [if_pos h]
    exact if_pos (hempty.mpr h)
  · rw [if_neg h]
    exact if_neg fun hrepeated => h (hempty.mp hrepeated)

theorem result_checkDefinitions {names : List String} :
    (checkDefinitions names).result
      = if (names.map Text.lower).Nodup then .ok ()
        else .error (.collidingDefinitions (collisions names)) := by
  have hempty : (collisions names).isEmpty = true ↔ (names.map Text.lower).Nodup := by
    rw [List.isEmpty_iff, collisions_eq_nil_iff]
  unfold checkDefinitions
  by_cases h : (names.map Text.lower).Nodup
  · rw [if_pos h]
    exact if_pos (hempty.mpr h)
  · rw [if_neg h]
    exact if_neg fun hcollide => h (hempty.mp hcollide)

/-! ## The outcome -/

def unitOfEntry (entry : String × Schema) : SourceUnit := definitionUnit entry.1 entry.2

/-- What becomes of operations and definitions. -/
inductive Assembly (operations : List Operation) (definitions : List (String × Schema)) :
    Except Defect Package → Prop where
  /-- An id repeats. -/
  | repeatedIds :
      ¬ (operations.map Operation.id).Nodup →
      Assembly operations definitions
        (.error (.repeatedIds (Names.repeated (operations.map Operation.id))))
  /-- No id repeats, but two definition names agree in lower case. -/
  | collidingDefinitions :
      (operations.map Operation.id).Nodup →
      ¬ ((OrderedMap.keys definitions).map Text.lower).Nodup →
      Assembly operations definitions
        (.error (.collidingDefinitions (collisions (OrderedMap.keys definitions))))
  /-- The document as a whole is in order, but an operation is refused. -/
  | refused {before after : List Operation} {op : Operation} {e : Defect} :
      (operations.map Operation.id).Nodup →
      ((OrderedMap.keys definitions).map Text.lower).Nodup →
      operations = before ++ op :: after →
      (∀ o ∈ before, ∃ u, o.compile.result = .ok u) →
      op.compile.result = .error e →
      Assembly operations definitions (.error e)
  /-- Everything is in order. -/
  | package {units : List SourceUnit} :
      (operations.map Operation.id).Nodup →
      ((OrderedMap.keys definitions).map Text.lower).Nodup →
      operations.map (fun op => op.compile.result) = units.map .ok →
      Assembly operations definitions
        (.ok { definitions := definitions.map unitOfEntry, operations := units,
               exports := operations.map fun op => ⟨op.id, op.id⟩ })

/-- The units of accepted operations. -/
theorem units_eq {units : List SourceUnit}
    (h : operations.map (fun op => op.compile.result) = units.map .ok) :
    units = operations.map Operation.sourceUnit := by
  induction operations generalizing units with
  | nil =>
    cases units with
    | nil => rfl
    | cons u units => cases h
  | cons op rest ih =>
    cases units with
    | nil => cases h
    | cons u units =>
      rw [List.map_cons, List.map_cons, List.cons.injEq] at h
      -- An operation that is accepted has one unit only.
      obtain ⟨_, _, rfl⟩ := Operation.compile_eq_ok_iff.mp h.1
      rw [List.map_cons, ← ih h.2]

/-- The exports of distinct names: one for each. -/
theorem exportsOf_eq {names : List String} (h : names.Nodup) :
    exportsOf names = names.map fun name => ⟨name, name⟩ := by
  rw [exportsOf, Names.firstSeen_eq_self h]

theorem result_assemble :
    (assemble operations definitions).result
      = if (operations.map Operation.id).Nodup then
          if ((OrderedMap.keys definitions).map Text.lower).Nodup then
            (Logged.forEach Operation.compile operations).result.map fun units =>
              { definitions := definitions.map unitOfEntry, operations := units,
                exports := exportsOf (units.map SourceUnit.name) }
          else .error (.collidingDefinitions (collisions (OrderedMap.keys definitions)))
        else .error (.repeatedIds (Names.repeated (operations.map Operation.id))) := by
  unfold assemble
  simp only [Logged.result_bind, Logged.result_ofExcept, Logged.result_tell, Logged.result_pure,
    checkOperationIds_eq, result_checkDefinitions]
  split
  · split
    · rfl
    · rfl
  · rfl

/-- The exports of a package are its operations. -/
theorem exportsOf_units {units : List SourceUnit} (ids : (operations.map Operation.id).Nodup)
    (h : operations.map (fun op => op.compile.result) = units.map .ok) :
    exportsOf (units.map SourceUnit.name) = operations.map fun op => ⟨op.id, op.id⟩ := by
  have hnames : units.map SourceUnit.name = operations.map Operation.id := by
    rw [units_eq h, List.map_map]
    rfl
  rw [hnames, exportsOf_eq ids, List.map_map]
  rfl

/-- The outcome is the one that the rules name. -/
theorem assemble_eq_iff {r : Except Defect Package} :
    (assemble operations definitions).result = r ↔ Assembly operations definitions r := by
  rw [result_assemble]
  constructor
  · rintro rfl
    split
    · next ids =>
      split
      · next names =>
        -- The document as a whole is in order, so the units decide.
        cases hunits : (Logged.forEach Operation.compile operations).result with
        | error e =>
          obtain ⟨before, op, after, hsplit, hbefore, hop⟩ := Logged.forEach_eq_error_iff.mp hunits
          exact .refused ids names hsplit hbefore hop
        | ok units =>
          have haccepted := Logged.forEach_eq_ok_iff.mp hunits
          rw [Except.map, exportsOf_units ids haccepted]
          exact .package ids names haccepted
      · next names => exact .collidingDefinitions ids names
    · next ids => exact .repeatedIds ids
  · intro h
    cases h with
    | repeatedIds ids => rw [if_neg ids]
    | collidingDefinitions ids names => rw [if_pos ids, if_neg names]
    | refused ids names hsplit hbefore hop =>
      rw [if_pos ids, if_pos names,
        Logged.forEach_eq_error_iff.mpr ⟨_, _, _, hsplit, hbefore, hop⟩]
      rfl
    | package ids names haccepted =>
      rw [if_pos ids, if_pos names, Logged.forEach_eq_ok_iff.mpr haccepted, Except.map,
        exportsOf_units ids haccepted]

/-- When every operation is accepted, and what the units are. -/
theorem forall_accepted_iff :
    (∀ op ∈ operations, ∃ u, op.compile.result = .ok u)
      ↔ ∃ units : List SourceUnit,
        operations.map (fun op => op.compile.result) = units.map .ok := by
  induction operations with
  | nil => exact ⟨fun _ => ⟨[], rfl⟩, fun _ => by simp⟩
  | cons op rest ih =>
    rw [List.forall_mem_cons, ih]
    constructor
    · rintro ⟨⟨u, hu⟩, units, hunits⟩
      exact ⟨u :: units, by rw [List.map_cons, List.map_cons, hu, hunits]⟩
    · rintro ⟨units, hunits⟩
      cases units with
      | nil => cases hunits
      | cons u units =>
        rw [List.map_cons, List.map_cons, List.cons.injEq] at hunits
        exact ⟨⟨u, hunits.1⟩, units, hunits.2⟩

/-- **All or nothing**: a package is made exactly if no id repeats, no two definition names agree in
    lower case and every operation is accepted. In every case the outcome is the one that the rules
    of `Assembly` name, and no other. -/
theorem assemble_allOrNothing (operations : List Operation)
    (definitions : List (String × Schema)) :
    ((∃ p, (assemble operations definitions).result = .ok p)
        ↔ (operations.map Operation.id).Nodup
          ∧ ((OrderedMap.keys definitions).map Text.lower).Nodup
          ∧ ∀ op ∈ operations, ∃ u, op.compile.result = .ok u)
      ∧ ∀ r, (assemble operations definitions).result = r
        ↔ Assembly operations definitions r := by
  refine ⟨?_, fun r => assemble_eq_iff⟩
  rw [forall_accepted_iff]
  constructor
  · rintro ⟨p, hp⟩
    cases assemble_eq_iff.mp hp with
    | package ids names haccepted => exact ⟨ids, names, _, haccepted⟩
  · rintro ⟨ids, names, units, haccepted⟩
    exact ⟨_, assemble_eq_iff.mpr (.package ids names haccepted)⟩

/-! ## Packages of documents -/

def packageOf (operations : List Operation) (definitions : List (String × Schema)) : Package where
  definitions := definitions.map unitOfEntry
  operations := operations.map Operation.sourceUnit
  exports := operations.map fun op => ⟨op.id, op.id⟩

theorem assemble_eq_ok_imp {p : Package}
    (h : (assemble operations definitions).result = .ok p) :
    p = packageOf operations definitions := by
  cases assemble_eq_iff.mp h with
  | package _ _ haccepted => rw [units_eq haccepted, packageOf]

theorem result_documentCompile (d : Document) :
    d.compile.result
      = (d.operations.mapError .invalidOperation).bind fun operations =>
          (assemble operations d.definitions).result.mapError .defect := by
  rw [Document.compile, Logged.result_bind]
  rfl

/-- The package of a document is assembled from its operations and its definitions. -/
theorem assembled_of_compile {d : Document} {p : Package} (h : d.compile.result = .ok p) :
    ∃ operations, d.operations = .ok operations
      ∧ (assemble operations d.definitions).result = .ok p := by
  rw [result_documentCompile] at h
  -- The operations are read first, and their failure would end the work.
  cases hoperations : d.operations with
  | error e =>
    rw [hoperations] at h
    cases h
  | ok operations =>
    rw [hoperations] at h
    refine ⟨operations, rfl, ?_⟩
    cases hpackage : (assemble operations d.definitions).result with
    | error e =>
      simp [hpackage, Except.mapError, Except.bind] at h
    | ok made =>
      obtain rfl : made = p := by simpa [hpackage, Except.mapError, Except.bind] using h
      rfl

theorem eq_packageOf_of_compile {d : Document} {p : Package} (h : d.compile.result = .ok p) :
    ∃ operations, d.operations = .ok operations ∧ p = packageOf operations d.definitions := by
  obtain ⟨operations, hoperations, hassembled⟩ := assembled_of_compile h
  exact ⟨operations, hoperations, assemble_eq_ok_imp hassembled⟩

/-- When a package is made, and which. -/
theorem assemble_eq_ok_iff {p : Package} :
    (assemble operations definitions).result = .ok p
      ↔ (operations.map Operation.id).Nodup
        ∧ ((OrderedMap.keys definitions).map Text.lower).Nodup
        ∧ (∀ op ∈ operations, ∃ u, op.compile.result = .ok u)
        ∧ p = packageOf operations definitions := by
  rw [forall_accepted_iff]
  constructor
  · intro h
    cases assemble_eq_iff.mp h with
    | package ids names haccepted => exact ⟨ids, names, ⟨_, haccepted⟩, assemble_eq_ok_imp h⟩
  · intro ⟨ids, names, ⟨units, haccepted⟩, hp⟩
    have hmade := assemble_eq_iff.mpr (.package ids names haccepted)
    rwa [hp, ← assemble_eq_ok_imp hmade]

/-- A package is made only of operations with distinct ids and of definitions whose names differ by
    more than case. -/
theorem nodup_of_assemble {p : Package} (h : (assemble operations definitions).result = .ok p) :
    (operations.map Operation.id).Nodup
      ∧ ((OrderedMap.keys definitions).map Text.lower).Nodup := by
  obtain ⟨ids, names, _⟩ := assemble_eq_ok_iff.mp h
  exact ⟨ids, names⟩

end ClientGen.Package
