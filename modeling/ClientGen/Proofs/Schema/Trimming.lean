import ClientGen.Proofs.Schema.Typing

/-! # Members that count

  A node may hold members that say nothing: properties beside a list, items beside an object, and
  everything beside a reference to a definition. References stand there too, and typing passes them
  over.

  * **`trimmed`**: a schema without such members, at every depth. It has the same type and the same
    dependencies (`typeInto_trimmed`).
  * **`writtenLinks`**: the links of all nodes of a schema, whether these count or not. In a trimmed
    schema they are the links of its type (`writtenLinks_trimmed`).

  `typeInto_collects` says with these what typing adds to the links that were met before. -/

namespace ClientGen.Schema

/-! ## All links -/

mutual

/-- The definitions linked from the nodes of a schema, in the order in which these are written:
    from the node itself, from the properties, from the items. -/
def writtenLinks : Schema → List String
  | ⟨reference, _, properties, _, items⟩ =>
    (linkOf? reference).toList ++ writtenObject properties ++ writtenItems items

def writtenObject : Option (List (String × Schema)) → List String
  | none => []
  | some properties => writtenProperties properties

def writtenProperties : List (String × Schema) → List String
  | [] => []
  | (_, schema) :: rest => writtenLinks schema ++ writtenProperties rest

def writtenItems : Option Schema → List String
  | none => []
  | some items => writtenLinks items

end

/-! ## Schemas without idle members -/

mutual

/-- A schema whose nodes hold only what they mean: the reference of a link, the properties and the
    required names of an object, the items of a list, and otherwise the kind alone. -/
def trimmed : Schema → Schema
  | ⟨reference, kind, properties, required, items⟩ =>
    match linkOf? reference with
    | some _ => { reference := reference }
    | none =>
      if kind = some "object" then
        { kind := kind, properties := trimmedObject properties, required := required }
      else if kind = some "array" then { kind := kind, items := trimmedItems items }
      else { kind := kind }

def trimmedObject : Option (List (String × Schema)) → Option (List (String × Schema))
  | none => none
  | some properties => some (trimmedProperties properties)

def trimmedProperties : List (String × Schema) → List (String × Schema)
  | [] => []
  | (name, schema) :: rest => (name, trimmed schema) :: trimmedProperties rest

def trimmedItems : Option Schema → Option Schema
  | none => none
  | some items => some (trimmed items)

end

theorem linkOf?_none : linkOf? none = none := rfl

/-! ## Typing does not see idle members

  As everywhere in this walk there is one statement for each of its four functions. -/

mutual

theorem typeInto_trimmed (before : List String) :
    ∀ s : Schema, typeInto before s.trimmed = typeInto before s
  | ⟨reference, kind, properties, required, items⟩ => by
    rw [trimmed]
    cases hlink : linkOf? reference with
    | some name => simp only [typeInto, hlink]
    | none =>
      by_cases hobject : kind = some "object"
      · simp only [if_pos hobject, typeInto, hlink, linkOf?_none]
        exact objectInto_trimmed required before properties
      · by_cases harray : kind = some "array"
        · simp only [if_neg hobject, if_pos harray, typeInto, hlink, linkOf?_none]
          exact listInto_trimmed before items
        · simp only [if_neg hobject, if_neg harray, typeInto, hlink, linkOf?_none]

theorem objectInto_trimmed (required before : List String) :
    ∀ properties : Option (List (String × Schema)),
      objectInto required before (trimmedObject properties) = objectInto required before properties
  | none => rfl
  | some properties => by
    simp only [trimmedObject, objectInto]
    rw [fieldsInto_trimmed required before properties]

theorem fieldsInto_trimmed (required before : List String) :
    ∀ properties : List (String × Schema),
      fieldsInto required before (trimmedProperties properties)
        = fieldsInto required before properties
  | [] => rfl
  | (name, schema) :: rest => by
    simp only [trimmedProperties, fieldsInto]
    rw [typeInto_trimmed before schema, fieldsInto_trimmed required _ rest]

theorem listInto_trimmed (before : List String) :
    ∀ items : Option Schema, listInto before (trimmedItems items) = listInto before items
  | none => rfl
  | some items => by
    simp only [trimmedItems, listInto]
    rw [typeInto_trimmed before items]

end

/-! ## Every link that is left counts -/

mutual

theorem writtenLinks_trimmed :
    ∀ s : Schema, s.trimmed.writtenLinks = (typeInto [] s).1.links
  | ⟨reference, kind, properties, required, items⟩ => by
    rw [trimmed, typeInto]
    cases hlink : linkOf? reference with
    | some name => simp [writtenLinks, writtenObject, writtenItems, hlink, TypeTerm.links]
    | none =>
      by_cases hobject : kind = some "object"
      · simp only [if_pos hobject, writtenLinks, linkOf?_none, writtenItems, Option.toList_none,
          List.nil_append, List.append_nil]
        exact writtenObject_trimmed required properties
      · by_cases harray : kind = some "array"
        · simp only [if_neg hobject, if_pos harray, writtenLinks, linkOf?_none, writtenObject,
            Option.toList_none, List.nil_append]
          exact writtenItems_trimmed items
        · simp only [if_neg hobject, if_neg harray, writtenLinks, linkOf?_none, writtenObject,
            writtenItems, Option.toList_none, List.nil_append]
          cases atomOfKind kind <;> rfl

theorem writtenObject_trimmed (required : List String) :
    ∀ properties : Option (List (String × Schema)),
      writtenObject (trimmedObject properties) = (objectInto required [] properties).1.links
  | none => rfl
  | some properties => by
    simp only [trimmedObject, writtenObject, objectInto, TypeTerm.links]
    exact writtenProperties_trimmed required properties

theorem writtenProperties_trimmed (required : List String) :
    ∀ properties : List (String × Schema),
      writtenProperties (trimmedProperties properties)
        = TypeTerm.fieldLinks (fieldsInto required [] properties).1
  | [] => rfl
  | (name, schema) :: rest => by
    simp only [trimmedProperties, writtenProperties, fieldsInto, TypeTerm.fieldLinks]
    -- The other fields are typed behind the links of the first one, which do not bear on types.
    rw [writtenLinks_trimmed schema, writtenProperties_trimmed required rest,
      fst_fieldsInto required (typeInto [] schema).2 rest]

theorem writtenItems_trimmed :
    ∀ items : Option Schema,
      writtenItems (trimmedItems items) = (listInto [] items).1.links
  | none => rfl
  | some items => by
    simp only [trimmedItems, writtenItems, listInto, TypeTerm.links]
    exact writtenLinks_trimmed items

end

/-! ## What typing collects -/

/-- **What typing collects**: behind any links, typing gives the type that it gives on its own and
    adds the dependencies that it finds on its own. The dependencies are the links of the type from
    left to right, repetitions included. These are the links of all nodes of the trimmed schema, and
    trimming changes neither the type nor the dependencies: a reference among idle members adds
    nothing, and every other one adds its link. -/
theorem typeInto_collects (s : Schema) :
    (∀ before, s.typeInto before = (s.typing.type, before ++ s.typing.dependencies))
      ∧ s.typing.dependencies = s.typing.type.links
      ∧ s.typing.dependencies = s.trimmed.writtenLinks
      ∧ s.trimmed.typing = s.typing := by
  have htrimmed : s.trimmed.typing = s.typing := by
    unfold typing
    rw [typeInto_trimmed]
  refine ⟨fun before => typeInto_eq_typing before s, dependencies_typing s, ?_, htrimmed⟩
  -- Both are the links of the type: the one by typing, the other by trimming.
  rw [dependencies_typing, writtenLinks_trimmed]
  rfl

/-- Two references stand among idle members, one beside a link and one beside the items of a list.
    Of the three references one counts. -/
example :
    let pet : Schema :=
      { kind := some "array",
        items := some { reference := some "#/definitions/Pet", items := some (.linkTo "Toy") },
        properties := some [("owner", .linkTo "Owner")] }
    pet.writtenLinks = ["Owner", "Pet", "Toy"] ∧ pet.typing.dependencies = ["Pet"] := by
  decide

end ClientGen.Schema
