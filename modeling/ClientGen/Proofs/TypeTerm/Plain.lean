import ClientGen.OrderedMap
import ClientGen.Text.Identifier
import ClientGen.TypeTerm

/-! # Types with plain links

  A link is written as the name that it leads to, with nothing around it. So that a reader can tell
  it from everything else, the name must be an identifier, and it must not be one of the words that
  stand for a type themselves (`IsPlain`). The names of fields may be anything. -/

namespace ClientGen.TypeTerm

/-! ## Induction -/

theorem sizeOf_type_lt {fields : List Field} {f : Field} (h : f ∈ fields) :
    sizeOf f.type < sizeOf fields := by
  have hfield := List.sizeOf_lt_of_mem h
  have hparts : sizeOf f = 1 + sizeOf f.name + sizeOf f.type + sizeOf f.optional := by
    cases f
    rfl
  omega

/-- Induction on types, with a hypothesis for each type directly below. -/
theorem induct {motive : TypeTerm → Prop} (string : motive .string) (number : motive .number)
    (boolean : motive .boolean) (any : motive .any) (object : motive .object)
    (named : ∀ name, motive (.named name))
    (array : ∀ element, motive element → motive (.array element))
    (record : ∀ fields, (∀ f ∈ fields, motive f.type) → motive (.record fields))
    (t : TypeTerm) : motive t :=
  match t with
  | .string => string
  | .number => number
  | .boolean => boolean
  | .any => any
  | .object => object
  | .named name => named name
  | .array element =>
    array element (induct string number boolean any object named array record element)
  | .record fields =>
    record fields fun f hf =>
      have := sizeOf_type_lt hf
      induct string number boolean any object named array record f.type
termination_by t

/-! ## Plain links -/

/-- The types that have a word of their own. -/
def wordedTypes : List (String × TypeTerm) :=
  [("string", .string), ("number", .number), ("boolean", .boolean), ("any", .any),
    ("Object", .object)]

/-- Whether every link of a type is an identifier that is not the word of another type. -/
def IsPlain (t : TypeTerm) : Prop :=
  ∀ n ∈ t.links, Text.isIdentifier n = true ∧ n ∉ OrderedMap.keys wordedTypes

instance (t : TypeTerm) : Decidable t.IsPlain :=
  inferInstanceAs
    (Decidable (∀ n ∈ t.links, Text.isIdentifier n = true ∧ n ∉ OrderedMap.keys wordedTypes))

theorem isPlain_named {name : String} :
    (TypeTerm.named name).IsPlain
      ↔ Text.isIdentifier name = true ∧ name ∉ OrderedMap.keys wordedTypes := by
  simp only [IsPlain, links, List.forall_mem_singleton]

theorem isPlain_array {element : TypeTerm} :
    (TypeTerm.array element).IsPlain ↔ element.IsPlain := Iff.rfl

theorem isPlain_record {fields : List Field} :
    (TypeTerm.record fields).IsPlain ↔ ∀ f ∈ fields, f.type.IsPlain := by
  induction fields with
  | nil => simp [IsPlain, links, fieldLinks]
  | cons f rest ih =>
    obtain ⟨name, type, optional⟩ := f
    have hrest : (TypeTerm.record (⟨name, type, optional⟩ :: rest)).IsPlain
        ↔ type.IsPlain ∧ (TypeTerm.record rest).IsPlain := by
      simp only [IsPlain, links, fieldLinks, List.forall_mem_append]
    rw [hrest, ih, List.forall_mem_cons]

end ClientGen.TypeTerm
