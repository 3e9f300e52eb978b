import Mathlib.Logic.Relation
import ClientGen.Proofs.Schema.Typing

/-! # Positions of schemas and types

  A position is reached by steps to a property of an object and to the items of a list. A schema and
  its type have the same positions, and what stands at a position of the type is the type of what
  stands there in the schema (`type_at?`). References are no steps: behind a link there are no
  positions on either side.

  * **Records are exact**: the fields of a record are the properties of the object, and those that
    are not required may be missing (`exactRecord_fieldsOf`).
  * **Lists of required names** count only by the declared names in them. Editing them otherwise, at
    any depth, does not change the type (`typing_of_editings`). -/

namespace ClientGen

inductive AccessStep where
  /-- To the property of an object with a name. -/
  | property (name : String)
  /-- To the items of a list. -/
  | items
  deriving DecidableEq, Repr

namespace TypeTerm

def step? : TypeTerm → AccessStep → Option TypeTerm
  | .record fields, .property name => (fields.find? fun f => f.name = name).map Field.type
  | .array element, .items => some element
  | _, _ => none

/-- What a path of steps leads to in a type. -/
def at? (t : TypeTerm) : List AccessStep → Option TypeTerm
  | [] => some t
  | step :: path => (t.step? step).bind fun inner => inner.at? path

end TypeTerm

namespace Schema

/-- What a step leads to from what a node means. Lists without an item type have untyped items. -/
def Meaning.step? : Meaning → AccessStep → Option Schema
  | .object (some properties) _, .property name => OrderedMap.find? name properties
  | .array items, .items => some (items.getD untyped)
  | _, _ => none

def step? (s : Schema) (step : AccessStep) : Option Schema := s.meaning.step? step

/-- What a path of steps leads to in a schema. -/
def at? (s : Schema) : List AccessStep → Option Schema
  | [] => some s
  | step :: path => (s.step? step).bind fun inner => inner.at? path

/-! ## Positions -/

theorem find?_fieldsOf (required : List String) (name : String)
    (properties : List (String × Schema)) :
    ((fieldsOf required properties).find? fun f => f.name = name).map Field.type
      = (OrderedMap.find? name properties).map fun t => t.typing.type := by
  induction properties with
  | nil => rfl
  | cons p rest ih =>
    obtain ⟨key, schema⟩ := p
    by_cases h : key = name
    · simp [fieldsOf, OrderedMap.find?, h]
    · simpa [fieldsOf, OrderedMap.find?, h] using ih

theorem Meaning.toType_step? (m : Meaning) (step : AccessStep) :
    m.toType.step? step = (m.step? step).map fun t => t.typing.type := by
  cases m with
  | reference name => cases step <;> rfl
  | object properties required =>
    cases properties with
    | none => cases step <;> rfl
    | some properties =>
      cases step with
      | property name => exact find?_fieldsOf required name properties
      | items => rfl
  | array items => cases step <;> rfl
  | atom kind => cases kind <;> cases step <;> rfl

/-- A step leads to the type of what it leads to in the schema. -/
theorem type_step? (s : Schema) (step : AccessStep) :
    s.typing.type.step? step = (s.step? step).map fun t => t.typing.type := by
  rw [type_typing]
  exact s.meaning.toType_step? step

/-- A path leads to the type of what it leads to in the schema, or on both sides nowhere. -/
theorem type_at? (s : Schema) (path : List AccessStep) :
    s.typing.type.at? path = (s.at? path).map fun t => t.typing.type := by
  induction path generalizing s with
  | nil => rfl
  | cons step path ih =>
    rw [TypeTerm.at?, Schema.at?, type_step?]
    -- The first step leads nowhere on both sides, or to a schema and its type.
    cases s.step? step with
    | none => rfl
    | some inner => exact ih inner

/-- The items of a list without an item type are of any type, and behind a link there is nothing. -/
example :
    let pet : Schema :=
      { kind := some "object",
        properties := some [("tags", .ofKind "array"), ("owner", .linkTo "Owner")] }
    pet.typing.type.at? [.property "tags", .items] = some .any
      ∧ pet.typing.type.at? [.property "owner", .property "name"] = none :=
  ⟨rfl, rfl⟩

/-! ## Records -/

/-- The fields of a record are the properties of an object. -/
structure ExactRecord (properties : List (String × Schema)) (required : List String)
    (fields : List Field) : Prop where
  /-- The names are those of the properties, in the order of these. -/
  names : fields.map Field.name = OrderedMap.keys properties
  /-- If the object declares no property twice, no name is repeated. -/
  once : OrderedMap.DistinctKeys properties → (fields.map Field.name).Nodup
  /-- A field may be missing exactly if its name is not required. -/
  optional : ∀ f ∈ fields, f.optional = true ↔ f.name ∉ required

theorem exactRecord_fieldsOf (required : List String) (properties : List (String × Schema)) :
    ExactRecord properties required (fieldsOf required properties) := by
  have hnames : (fieldsOf required properties).map Field.name = OrderedMap.keys properties := by
    rw [fieldsOf, List.map_map]
    rfl
  refine ⟨hnames, fun hdistinct => hnames ▸ hdistinct, ?_⟩
  intro f hf
  obtain ⟨p, _, rfl⟩ := List.mem_map.mp hf
  simp

/-! ## Required names -/

def declaredNames (properties : Option (List (String × Schema))) : List String :=
  OrderedMap.keys (properties.getD [])

/-- Edits of a list of required names that say nothing new about the declared ones. -/
inductive IdleEdit (declared : List String) : List String → List String → Prop where
  | reorder {required required' : List String} :
      required.Perm required' → IdleEdit declared required required'
  /-- A name is repeated. -/
  | again {required : List String} {name : String} :
      name ∈ required → IdleEdit declared required (name :: required)
  /-- A name that is not declared is added. -/
  | undeclared {required : List String} {name : String} :
      name ∉ declared → IdleEdit declared required (name :: required)

/-- An edit of one list of required names, at any depth of a schema. -/
inductive Edited : Schema → Schema → Prop where
  | here {reference kind : Option String} {properties : Option (List (String × Schema))}
      {required required' : List String} {items : Option Schema} :
      IdleEdit (declaredNames properties) required required' →
      Edited ⟨reference, kind, properties, required, items⟩
        ⟨reference, kind, properties, required', items⟩
  | property {reference kind : Option String} {before after : List (String × Schema)}
      {name : String} {s s' : Schema} {required : List String} {items : Option Schema} :
      Edited s s' →
      Edited ⟨reference, kind, some (before ++ (name, s) :: after), required, items⟩
        ⟨reference, kind, some (before ++ (name, s') :: after), required, items⟩
  | items {reference kind : Option String} {properties : Option (List (String × Schema))}
      {required : List String} {s s' : Schema} :
      Edited s s' →
      Edited ⟨reference, kind, properties, required, some s⟩
        ⟨reference, kind, properties, required, some s'⟩

theorem IdleEdit.contains_eq {declared required required' : List String}
    (h : IdleEdit declared required required') {name : String} (hname : name ∈ declared) :
    required.contains name = required'.contains name := by
  rw [Bool.eq_iff_iff, List.contains_iff_mem, List.contains_iff_mem]
  -- Membership alone counts, and for declared names no edit changes it.
  cases h with
  | reorder hperm => exact hperm.mem_iff
  | again hmem =>
    rw [List.mem_cons]
    exact ⟨.inr, fun hin => hin.elim (fun heq => heq ▸ hmem) id⟩
  | undeclared hnew =>
    rw [List.mem_cons]
    exact ⟨.inr, fun hin => hin.resolve_left fun heq => hnew (heq ▸ hname)⟩

theorem fieldsOf_congr {required required' : List String} {properties : List (String × Schema)}
    (h : ∀ name ∈ OrderedMap.keys properties,
      required.contains name = required'.contains name) :
    fieldsOf required properties = fieldsOf required' properties := by
  apply List.map_congr_left
  intro p hp
  rw [h p.1 (List.mem_map_of_mem hp)]

/-- Nodes with one link and one kind have the same type if their properties and items have. -/
theorem type_congr {s s' : Schema} (hlink : s.link? = s'.link?) (hkind : s.kind = s'.kind)
    (hobject : (Meaning.object s.properties s.required).toType
      = (Meaning.object s'.properties s'.required).toType)
    (harray : (Meaning.array s.items).toType = (Meaning.array s'.items).toType) :
    s.typing.type = s'.typing.type := by
  rw [type_typing, type_typing, meaning, meaning, hlink, hkind]
  -- A node means one thing, so only the parts that decide about it are compared.
  cases s'.link? with
  | some name => rfl
  | none =>
    by_cases hkindObject : s'.kind = some "object"
    · simpa only [if_pos hkindObject] using hobject
    · by_cases hkindArray : s'.kind = some "array"
      · simpa only [if_neg hkindObject, if_pos hkindArray] using harray
      · simp only [if_neg hkindObject, if_neg hkindArray]

/-- One edit does not change the type. -/
theorem type_of_edited {s s' : Schema} (h : Edited s s') : s.typing.type = s'.typing.type := by
  induction h with
  | @here reference kind properties required required' items hedit =>
    -- Only the declared names are looked up, and for them the edited list says the same.
    refine type_congr rfl rfl ?_ rfl
    cases properties with
    | none => rfl
    | some properties =>
      exact congrArg TypeTerm.record (fieldsOf_congr fun name => hedit.contains_eq)
  | property _ ih =>
    refine type_congr rfl rfl ?_ rfl
    simp only [Meaning.toType, fieldsOf, List.map_append, List.map_cons, ih]
  | items _ ih => exact type_congr rfl rfl rfl (congrArg TypeTerm.array ih)

/-- Any number of edits, made or taken back, changes neither the type nor the dependencies. -/
theorem typing_of_editings {s s' : Schema} (h : Relation.EqvGen Edited s s') :
    s.typing = s'.typing := by
  have htype : s.typing.type = s'.typing.type := by
    induction h with
    | rel s s' hedited => exact type_of_edited hedited
    | refl s => rfl
    | symm s s' _ ih => exact ih.symm
    | trans s t s' _ _ ih ih' => exact ih.trans ih'
  rw [typing_eq s, typing_eq s', htype]

/-! ## Exactness -/

/-- **Types are exact at every depth**: a path leads somewhere in the type of a schema exactly if it
    does in the schema, and then to the type of what it leads to there. Where it leads to an object
    with properties, the type has the record with exactly these. Edits of required names that say
    nothing new about declared ones change nothing, however deep they are. -/
theorem typing_exact (s : Schema) :
    (∀ path, (s.typing.type.at? path).isSome = (s.at? path).isSome)
      ∧ (∀ path t, s.at? path = some t → s.typing.type.at? path = some t.typing.type)
      ∧ (∀ path t properties required, s.at? path = some t →
          t.meaning = .object (some properties) required →
          ∃ fields, s.typing.type.at? path = some (.record fields)
            ∧ ExactRecord properties required fields)
      ∧ ∀ s', Relation.EqvGen Edited s s' → s.typing = s'.typing := by
  refine ⟨?_, ?_, ?_, fun s' => typing_of_editings⟩
  · intro path
    rw [type_at?, Option.isSome_map]
  · intro path t ht
    rw [type_at?, ht, Option.map_some]
  · intro path t properties required ht hobject
    refine ⟨fieldsOf required properties, ?_, exactRecord_fieldsOf required properties⟩
    rw [type_at?, ht, Option.map_some, type_typing, hobject]
    rfl

end Schema

end ClientGen
