import ClientGen.Typing

/-! # Links collected by typing

  Typing hands a list of links through the whole schema. What a node adds to that list does not
  depend on what is already in it, and it is exactly the list of links of the type that the node
  gets. So typing behind other links is typing on its own with the links put in front.

  The type itself depends on nothing but what the node means (`type_typing`). -/

namespace ClientGen.Schema

/-! ## One walk

  The four functions of the walk are treated together, one statement for each: the links handed in
  come out in front of the links of the result. -/

mutual

theorem snd_typeInto (before : List String) :
    ∀ s : Schema, (typeInto before s).2 = before ++ (typeInto before s).1.links
  | ⟨reference, kind, properties, required, items⟩ => by
    unfold typeInto
    cases linkOf? reference with
    | some name => simp [TypeTerm.links]
    | none =>
      by_cases hobject : kind = some "object"
      · simp only [hobject, if_true]
        exact snd_objectInto required before properties
      · by_cases harray : kind = some "array"
        · simp only [harray, if_true]
          exact snd_listInto before items
        · simp only [hobject, harray, if_false]
          cases atomOfKind kind <;> simp [Atom.toType, TypeTerm.links]

theorem snd_objectInto (required before : List String) :
    ∀ properties : Option (List (String × Schema)),
      (objectInto required before properties).2
        = before ++ (objectInto required before properties).1.links
  | none => by simp [objectInto, TypeTerm.links]
  | some properties => by
    simp only [objectInto, TypeTerm.links]
    exact snd_fieldsInto required before properties

theorem snd_fieldsInto (required before : List String) :
    ∀ properties : List (String × Schema),
      (fieldsInto required before properties).2
        = before ++ TypeTerm.fieldLinks (fieldsInto required before properties).1
  | [] => by simp [fieldsInto, TypeTerm.fieldLinks]
  | (name, schema) :: rest => by
    simp only [fieldsInto, TypeTerm.fieldLinks]
    -- The other fields are typed behind the links of the first one.
    rw [snd_fieldsInto required _ rest, snd_typeInto before schema, List.append_assoc]

theorem snd_listInto (before : List String) :
    ∀ items : Option Schema, (listInto before items).2 = before ++ (listInto before items).1.links
  | none => by simp [listInto, TypeTerm.links]
  | some items => by
    simp only [listInto, TypeTerm.links]
    exact snd_typeInto before items

end

mutual

theorem fst_typeInto (before : List String) :
    ∀ s : Schema, (typeInto before s).1 = (typeInto [] s).1
  | ⟨reference, kind, properties, required, items⟩ => by
    unfold typeInto
    cases linkOf? reference with
    | some name => rfl
    | none =>
      by_cases hobject : kind = some "object"
      · simp only [hobject, if_true]
        exact fst_objectInto required before properties
      · by_cases harray : kind = some "array"
        · simp only [harray, if_true]
          exact fst_listInto before items
        · simp only [hobject, harray, if_false]

theorem fst_objectInto (required before : List String) :
    ∀ properties : Option (List (String × Schema)),
      (objectInto required before properties).1 = (objectInto required [] properties).1
  | none => rfl
  | some properties => by
    simp only [objectInto]
    rw [fst_fieldsInto required before properties]

theorem fst_fieldsInto (required before : List String) :
    ∀ properties : List (String × Schema),
      (fieldsInto required before properties).1 = (fieldsInto required [] properties).1
  | [] => rfl
  | (name, schema) :: rest => by
    simp only [fieldsInto]
    -- The two sides type the other fields behind different links; neither list matters.
    rw [fst_typeInto before schema, fst_fieldsInto required (typeInto before schema).2 rest,
      fst_fieldsInto required (typeInto [] schema).2 rest]

theorem fst_listInto (before : List String) :
    ∀ items : Option Schema, (listInto before items).1 = (listInto [] items).1
  | none => rfl
  | some items => by
    simp only [listInto]
    rw [fst_typeInto before items]

end

/-! ## Typing on its own -/

/-- The dependencies of a typing are the links of its type, in order and with repetitions. -/
theorem dependencies_typing (s : Schema) : s.typing.dependencies = s.typing.type.links := by
  have h := snd_typeInto [] s
  simpa [typing] using h

/-- A typing is its type with the links of it. -/
theorem typing_eq (s : Schema) : s.typing = ⟨s.typing.type, s.typing.type.links⟩ := by
  rw [← dependencies_typing]

/-- Typing behind other links is typing on its own, with its dependencies put behind them. -/
theorem typeInto_eq_typing (before : List String) (s : Schema) :
    s.typeInto before = (s.typing.type, before ++ s.typing.dependencies) := by
  have hlinks := snd_typeInto before s
  rw [fst_typeInto before s] at hlinks
  refine Prod.ext (fst_typeInto before s) ?_
  rw [hlinks, dependencies_typing]
  rfl

/-! ## Types of meanings -/

def untyped : Schema := {}

/-- The fields of the record for an object. -/
def fieldsOf (required : List String) (properties : List (String × Schema)) : List Field :=
  properties.map fun p => ⟨p.1, p.2.typing.type, !required.contains p.1⟩

def Meaning.toType : Meaning → TypeTerm
  | .reference name => .named name
  | .object none _ => .object
  | .object (some properties) required => .record (fieldsOf required properties)
  | .array items => .array (items.getD untyped).typing.type
  | .atom kind => kind.toType

theorem fst_fieldsInto_eq (required links : List String) (properties : List (String × Schema)) :
    (fieldsInto required links properties).1 = fieldsOf required properties := by
  induction properties generalizing links with
  | nil => rfl
  | cons p rest ih =>
    obtain ⟨name, schema⟩ := p
    -- The links that are handed on do not bear on the types of the fields.
    simp only [fieldsInto, typeInto_eq_typing links schema]
    rw [ih]
    rfl

/-- The type of a node depends on its meaning alone. -/
theorem type_typing (s : Schema) : s.typing.type = s.meaning.toType := by
  obtain ⟨reference, kind, properties, required, items⟩ := s
  simp only [typing, typeInto, meaning, link?]
  -- A link hides everything else in the node, and the kind decides about the rest.
  cases linkOf? reference with
  | some name => rfl
  | none =>
    by_cases hobject : kind = some "object"
    · simp only [if_pos hobject]
      cases properties with
      | none => rfl
      | some properties =>
        simp only [objectInto, fst_fieldsInto_eq]
        rfl
    · by_cases harray : kind = some "array"
      · simp only [if_neg hobject, if_pos harray]
        cases items <;> rfl
      · simp only [if_neg hobject, if_neg harray]
        rfl

end ClientGen.Schema
