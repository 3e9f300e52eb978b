import ClientGen.OrderedMap
import ClientGen.Proofs.Schema.Typing
import Mathlib.Logic.Function.Iterate

/-! # Unfolding of definitions

  A schema links to definitions by name, and typing keeps these links as they are. To unfold means
  to look up every link once and to put what it leads to in its place. This can be done on either
  side of typing:

  * **`Schema.unfolded`** puts definitions in the place of links.
  * **`TypeTerm.unfolded`** puts the types of definitions in the place of links.

  Both give the same type (`type_unfolded`), so they do however often they are repeated
  (`type_unfolded_iterate`). Definitions that lead back to themselves can be unfolded without end,
  but each time there is only one step to take. -/

namespace ClientGen

/-! ## Types -/

namespace TypeTerm

mutual

/-- A type with types in the place of its links. -/
def substitute (f : String → TypeTerm) : TypeTerm → TypeTerm
  | .named name => f name
  | .array element => .array (substitute f element)
  | .record fields => .record (substituteFields f fields)
  | .string => .string
  | .number => .number
  | .boolean => .boolean
  | .any => .any
  | .object => .object

def substituteFields (f : String → TypeTerm) : List Field → List Field
  | [] => []
  | ⟨name, type, optional⟩ :: rest =>
    ⟨name, substitute f type, optional⟩ :: substituteFields f rest

end

/-- The type of the definition that a name has among some definitions. A name that has none stays a
    link. -/
def ofDefinition (definitions : List (String × Schema)) (name : String) : TypeTerm :=
  match OrderedMap.find? name definitions with
  | some schema => schema.typing.type
  | none => .named name

/-- A type with the types of definitions in the place of its links to them. -/
def unfolded (definitions : List (String × Schema)) : TypeTerm → TypeTerm :=
  substitute (ofDefinition definitions)

end TypeTerm

/-! ## Schemas -/

namespace Schema

mutual

/-- A schema node with definitions in the place of the links that are reached from it: through the
    properties of objects and the items of lists, but not behind another link. -/
def unfolded (definitions : List (String × Schema)) : Schema → Schema
  | ⟨reference, kind, properties, required, items⟩ =>
    match linkOf? reference with
    | some name =>
      (OrderedMap.find? name definitions).getD ⟨reference, kind, properties, required, items⟩
    | none =>
      if kind = some "object" then
        ⟨reference, kind, unfoldedObject definitions properties, required, items⟩
      else if kind = some "array" then
        ⟨reference, kind, properties, required, unfoldedItems definitions items⟩
      else ⟨reference, kind, properties, required, items⟩

def unfoldedObject (definitions : List (String × Schema)) :
    Option (List (String × Schema)) → Option (List (String × Schema))
  | none => none
  | some properties => some (unfoldedProperties definitions properties)

def unfoldedProperties (definitions : List (String × Schema)) :
    List (String × Schema) → List (String × Schema)
  | [] => []
  | (name, schema) :: rest =>
    (name, unfolded definitions schema) :: unfoldedProperties definitions rest

def unfoldedItems (definitions : List (String × Schema)) : Option Schema → Option Schema
  | none => none
  | some items => some (unfolded definitions items)

end

variable (definitions : List (String × Schema))

/-! ## Typing before and after

  The four functions of typing are treated together, as they call each other. The links that they
  hand on do not bear on types, so each is started without any. -/

mutual

theorem typeInto_unfolded :
    ∀ s : Schema,
      (typeInto [] (s.unfolded definitions)).1 = (typeInto [] s).1.unfolded definitions
  | ⟨reference, kind, properties, required, items⟩ => by
    rw [unfolded, typeInto]
    cases hlink : linkOf? reference with
    | some name =>
      simp only [TypeTerm.unfolded, TypeTerm.substitute, TypeTerm.ofDefinition]
      cases hfind : OrderedMap.find? name definitions with
      | some schema => rfl
      | none =>
        -- The link leads nowhere, so the node stays, and so does its type.
        rw [Option.getD_none, typeInto, hlink]
    | none =>
      by_cases hobject : kind = some "object"
      · rw [if_pos hobject, if_pos hobject, typeInto, hlink, if_pos hobject]
        exact objectInto_unfolded required properties
      · by_cases harray : kind = some "array"
        · rw [if_neg hobject, if_pos harray, if_neg hobject, if_pos harray, typeInto, hlink,
            if_neg hobject, if_pos harray]
          exact listInto_unfolded items
        · rw [if_neg hobject, if_neg harray, if_neg hobject, if_neg harray, typeInto, hlink,
            if_neg hobject, if_neg harray]
          cases atomOfKind kind <;> rfl

theorem objectInto_unfolded (required : List String) :
    ∀ properties : Option (List (String × Schema)),
      (objectInto required [] (unfoldedObject definitions properties)).1
        = (objectInto required [] properties).1.unfolded definitions
  | none => rfl
  | some properties => by
    simp only [unfoldedObject, objectInto, TypeTerm.unfolded, TypeTerm.substitute]
    rw [fieldsInto_unfolded required properties]

theorem fieldsInto_unfolded (required : List String) :
    ∀ properties : List (String × Schema),
      (fieldsInto required [] (unfoldedProperties definitions properties)).1
        = TypeTerm.substituteFields (TypeTerm.ofDefinition definitions)
            (fieldsInto required [] properties).1
  | [] => rfl
  | (name, schema) :: rest => by
    have hrest : ∀ (links : List String) (properties : List (String × Schema)),
        (fieldsInto required links properties).1 = (fieldsInto required [] properties).1 :=
      fst_fieldsInto required
    have htype : (typeInto [] (schema.unfolded definitions)).1
        = (typeInto [] schema).1.substitute (TypeTerm.ofDefinition definitions) :=
      typeInto_unfolded schema
    -- The name and whether it is required are the same on both sides.
    simp only [unfoldedProperties, fieldsInto, TypeTerm.substituteFields, htype]
    rw [hrest, fieldsInto_unfolded required rest, hrest (typeInto [] schema).2]

theorem listInto_unfolded :
    ∀ items : Option Schema,
      (listInto [] (unfoldedItems definitions items)).1
        = (listInto [] items).1.unfolded definitions
  | none => rfl
  | some items => by
    simp only [unfoldedItems, listInto, TypeTerm.unfolded, TypeTerm.substitute]
    rw [typeInto_unfolded items]
    rfl

end

/-- Typing an unfolded schema gives the unfolded type. -/
theorem type_unfolded (s : Schema) :
    (s.unfolded definitions).typing.type = s.typing.type.unfolded definitions :=
  typeInto_unfolded definitions s

/-- Typing does not look a link up. -/
theorem type_of_link {s : Schema} {name : String} (h : s.link? = some name) :
    s.typing.type = .named name := by
  rw [type_typing, meaning, h]
  rfl

/-- **Linking commutes with unfolding**: however often the links to definitions are unfolded, it
    does not matter whether this is done before or after typing, although typing itself keeps every
    link. -/
theorem type_unfolded_iterate (s : Schema) :
    (∀ k : Nat, ((unfolded definitions)^[k] s).typing.type
        = (TypeTerm.unfolded definitions)^[k] s.typing.type)
      ∧ ∀ name, s.link? = some name → s.typing.type = .named name := by
  have step : Function.Semiconj (fun s : Schema => s.typing.type) (unfolded definitions)
      (TypeTerm.unfolded definitions) := type_unfolded definitions
  refine ⟨fun k => ?_, fun name => type_of_link⟩
  exact step.iterate_right k s

end Schema

end ClientGen
