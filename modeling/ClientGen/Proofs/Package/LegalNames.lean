import ClientGen.Proofs.Operation.FreshImport
import ClientGen.Proofs.Operation.Hygiene
import ClientGen.Proofs.Package.Assembly

/-! # Legal names

  The sources of a package bind names that are written as they are, without quotes. Such a name has
  to be an identifier that is not reserved, and the name of a type must not be that of a built-in
  type either.

  Of the names that the document gives, only those of path parameters are checked. The others, which
  are operation ids, names of definitions and targets of links, reach the sources unchanged:

  * **Fresh names** are legal, so moving an import does no harm (`isTypeName_candidate`).
  * **All other names** are legal exactly if they are so in the document (`legalNames_iff`). -/

namespace ClientGen

namespace Text

/-! ## Names of types -/

def builtinTypes : List String := ["string", "number", "boolean", "any", "Object", "Array"]

/-- Whether a text may name a type: it may be bound and is not the name of a built-in type. -/
def isTypeName (s : String) : Bool := isBindable s && !builtinTypes.contains s

theorem isIdentifier_append {s t : String} (hs : isIdentifier s = true)
    (ht : t.toList.all isIdentifierPart = true) : isIdentifier (s ++ t) = true := by
  unfold isIdentifier at hs ⊢
  rw [String.toList_append]
  cases hchars : s.toList with
  | nil => simp [hchars] at hs
  | cons c rest =>
    rw [hchars, Bool.and_eq_true] at hs
    simp only [List.cons_append, List.all_append, hs.1, hs.2, ht, Bool.and_self]

/-- An identifier that is longer than every name with a meaning of its own may name a type. -/
theorem isTypeName_of_length {s : String} (hs : isIdentifier s = true) (hlong : 12 ≤ s.length) :
    isTypeName s = true := by
  -- Every word that is refused is shorter.
  have hshort : ∀ w ∈ reservedWords ++ builtinTypes, w.length < 12 := by decide
  have hreserved : s ∉ reservedWords := by
    intro h
    have := hshort s (List.mem_append_left _ h)
    omega
  have hbuiltin : s ∉ builtinTypes := by
    intro h
    have := hshort s (List.mem_append_right _ h)
    omega
  simp [isTypeName, isBindable, hs, hreserved, hbuiltin]

end Text

/-! ## Operations -/

namespace Operation

variable {op : Operation} {n : String}

theorem isIdentifier_candidate (n : Nat) : Text.isIdentifier (candidate n) = true := by
  have hstart : Text.isIdentifier (Generated.response ++ "Type") = true := by decide
  cases n with
  | zero => exact hstart
  | succ n =>
    -- Behind the letters stand the digits of a number.
    refine Text.isIdentifier_append hstart ?_
    rw [Nat.toString_eq_repr, Nat.toList_repr, List.all_eq_true]
    intro c hc
    have hdigit : c.isDigit = true := Nat.isDigit_of_mem_toDigits (by omega) (by omega) hc
    simp [Text.isIdentifierPart, Char.isAlphanum, hdigit]

/-- The names that an import may be moved to are legal. -/
theorem isTypeName_candidate (n : Nat) : Text.isTypeName (candidate n) = true :=
  Text.isTypeName_of_length (isIdentifier_candidate n) (twelve_le_length_candidate n)

/-- The local name of a definition is legal exactly if its own name is. -/
theorem isTypeName_localName (h : n ∈ op.importedNames) :
    Text.isTypeName (op.localName n) = Text.isTypeName n := by
  by_cases hresponse : n = Generated.response
  · -- Both the name of the alias and the fresh name are legal.
    subst hresponse
    obtain ⟨j, _, heq, _⟩ := responseImport?_spec h
    have hlocal : op.localName Generated.response = candidate j := by simp [localName, heq]
    rw [hlocal, isTypeName_candidate]
    decide
  · rw [localName_of_ne hresponse]

end Operation

/-! ## Units -/

/-- Whether the name that an item binds is legal where it is written. -/
def Item.hasLegalName : Item → Bool
  | .imports (.value name _) => Text.isBindable name
  | .imports (.type _ localName _) => Text.isTypeName localName
  | .typeAlias a => Text.isTypeName a.name
  | .function f => Text.isBindable f.name

def SourceUnit.hasLegalNames (u : SourceUnit) : Bool := u.script.items.all Item.hasLegalName

/-- The unit of an operation binds legal names exactly if the id and the linked definitions have
    legal names. -/
theorem Operation.hasLegalNames_sourceUnit {op : Operation} :
    op.sourceUnit.hasLegalNames = true
      ↔ Text.isBindable op.id = true ∧ ∀ n ∈ op.linkedNames, Text.isTypeName n = true := by
  have hhelpers : (op.helperNames.map importOfHelper).all Item.hasLegalName = true := by
    rw [List.all_eq_true]
    intro i hi
    obtain ⟨n, hn, rfl⟩ := List.mem_map.mp hi
    rcases mem_helperNames.mp hn with rfl | ⟨_, rfl⟩ <;> decide
  have himports : (op.importedNames.map fun n =>
        Item.imports (.type n (op.localName n) ("../types/" ++ n))).all Item.hasLegalName = true
      ↔ ∀ n ∈ op.linkedNames, Text.isTypeName n = true := by
    rw [List.all_map, List.all_eq_true]
    constructor
    · intro h n hn
      have hn' := mem_importedNames.mpr hn
      exact (isTypeName_localName hn').symm.trans (h n hn')
    · intro h n hn
      exact (isTypeName_localName hn).trans (h n (mem_importedNames.mp hn))
  -- The name of the alias does not depend on the document.
  have hanswer : (Item.typeAlias op.unitAlias).hasLegalName = true := by
    show Text.isTypeName Generated.response = true
    decide
  unfold SourceUnit.hasLegalNames
  rw [items_sourceUnit]
  simp only [List.all_append, List.all_cons, List.all_nil, Bool.and_eq_true, hhelpers, himports,
    hanswer, true_and, and_true]
  exact and_comm

/-- The unit of a definition binds legal names exactly if it and the linked definitions have legal
    names. -/
theorem Package.hasLegalNames_unitOfEntry {entry : String × Schema} :
    (Package.unitOfEntry entry).hasLegalNames = true
      ↔ Text.isTypeName entry.1 = true
        ∧ ∀ n ∈ entry.2.typing.dependencies, Text.isTypeName n = true := by
  have himports : ∀ names : List String, (names.map Package.importOfSibling).all Item.hasLegalName
      = names.all Text.isTypeName := by
    intro names
    rw [List.all_map]
    rfl
  unfold SourceUnit.hasLegalNames Package.unitOfEntry Package.definitionUnit
  rw [List.all_append, himports]
  simp only [Bool.and_eq_true, List.all_eq_true, List.mem_filter, Names.mem_firstSeen,
    decide_eq_true_eq, List.mem_singleton, forall_eq, Item.hasLegalName]
  constructor
  · rintro ⟨hlinks, hown⟩
    refine ⟨hown, fun n hn => ?_⟩
    -- A definition that links to itself does not import itself.
    by_cases hself : n = entry.1
    · rwa [hself]
    · exact hlinks n ⟨hn, hself⟩
  · rintro ⟨hown, hlinks⟩
    exact ⟨fun n hn => hlinks n hn.1, hown⟩

/-! ## Packages -/

namespace Package

/-- All names that a package binds or exports are legal where they are written. -/
structure LegalNames (p : Package) : Prop where
  /-- Those that the units of operations bind: functions and imports. -/
  operations : ∀ u ∈ p.operations, u.hasLegalNames = true
  /-- Those that the units of definitions bind: aliases and imports. -/
  definitions : ∀ u ∈ p.definitions, u.hasLegalNames = true
  /-- Those under which functions are exported. -/
  exports : ∀ e ∈ p.exports, Text.isBindable e.name = true

/-- All names that reach the sources unchanged are legal in the document. -/
structure LegallyNamed (operations : List Operation) (definitions : List (String × Schema)) :
    Prop where
  ids : ∀ op ∈ operations, Text.isBindable op.id = true
  keys : ∀ name ∈ OrderedMap.keys definitions, Text.isTypeName name = true
  /-- Targets of links from operations. -/
  operation_links : ∀ op ∈ operations, ∀ n ∈ op.linkedNames, Text.isTypeName n = true
  /-- Targets of links from definitions. -/
  definition_links : ∀ entry ∈ definitions, ∀ n ∈ entry.2.typing.dependencies,
    Text.isTypeName n = true

theorem legalNames_packageOf_iff {operations : List Operation}
    {definitions : List (String × Schema)} :
    LegalNames (packageOf operations definitions) ↔ LegallyNamed operations definitions := by
  constructor
  · rintro ⟨hoperations, hdefinitions, _⟩
    -- Units of a package are those of its operations and entries, so each condition goes through
    -- one unit.
    have hop : ∀ op ∈ operations, op.sourceUnit.hasLegalNames = true := by
      intro op hop
      exact hoperations _ (List.mem_map_of_mem hop)
    have hentry : ∀ entry ∈ definitions, (unitOfEntry entry).hasLegalNames = true := by
      intro entry hentry
      exact hdefinitions _ (List.mem_map_of_mem hentry)
    refine ⟨?ids, ?keys, ?operationLinks, ?definitionLinks⟩
    case ids => exact fun op h => (Operation.hasLegalNames_sourceUnit.mp (hop op h)).1
    case keys =>
      intro name hname
      obtain ⟨entry, h, rfl⟩ := List.mem_map.mp hname
      exact (hasLegalNames_unitOfEntry.mp (hentry entry h)).1
    case operationLinks =>
      exact fun op h => (Operation.hasLegalNames_sourceUnit.mp (hop op h)).2
    case definitionLinks =>
      exact fun entry h => (hasLegalNames_unitOfEntry.mp (hentry entry h)).2
  · rintro ⟨hids, hkeys, hoperations, hdefinitions⟩
    refine ⟨?operations, ?definitions, ?exports⟩
    case operations =>
      intro u hu
      obtain ⟨op, h, rfl⟩ := List.mem_map.mp hu
      exact Operation.hasLegalNames_sourceUnit.mpr ⟨hids op h, hoperations op h⟩
    case definitions =>
      intro u hu
      obtain ⟨entry, h, rfl⟩ := List.mem_map.mp hu
      exact hasLegalNames_unitOfEntry.mpr
        ⟨hkeys _ (List.mem_map_of_mem h), hdefinitions entry h⟩
    case exports =>
      intro e he
      obtain ⟨op, h, rfl⟩ := List.mem_map.mp he
      exact hids op h

/-- **Legal names**: the names that a package binds and exports are legal exactly if those are that
    its document gives. No name goes wrong on the way, and none is put right. -/
theorem legalNames_iff {d : Document} {p : Package} (compiled : d.compile.result = .ok p) :
    ∃ operations, d.operations = .ok operations
      ∧ (LegalNames p ↔ LegallyNamed operations d.definitions) := by
  obtain ⟨operations, hoperations, rfl⟩ := eq_packageOf_of_compile compiled
  exact ⟨operations, hoperations, legalNames_packageOf_iff⟩

/-- A document whose names are legal; the one of its definitions is that of the alias of answers. -/
def plainNames : Document where
  paths := [("/pets", [("get", .object
    [("operationId", .string "listPets"),
     ("responses", .object [("200", .object [("description", .string "ok"),
       ("schema", .object [("$ref", .string "#/definitions/Response")])])])])])]
  definitions :=
    [("Response",
      { kind := some "object"
        properties := some [("next", Schema.linkTo "Response"), ("tag", Schema.ofKind "string")] })]

theorem legalNames_plainNames :
    ∃ p, plainNames.compile.result = .ok p ∧ LegalNames p
      ∧ ∃ operations, plainNames.operations = .ok operations
        ∧ (LegalNames p ↔ LegallyNamed operations plainNames.definitions) :=
  ⟨_, rfl, ⟨by decide, by decide, by decide⟩, legalNames_iff rfl⟩

/-- A document whose operation id is no identifier. -/
def hyphenatedId : Document where
  paths := [("/pets", [("get", .object
    [("operationId", .string "list-pets"), ("summary", .string "s")])])]

/-- An operation id is not checked: one with a hyphen becomes the name of a function. -/
theorem illegalNames_hyphenatedId :
    ∃ p, hyphenatedId.compile.result = .ok p
      ∧ (p.exports.map Export.name = ["list-pets"] ∧ Text.isIdentifier "list-pets" = false)
      ∧ ¬ LegalNames p := by
  refine ⟨_, rfl, by decide, fun legal => ?_⟩
  exact absurd legal.exports (by decide)

end Package

end ClientGen
