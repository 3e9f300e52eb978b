import ClientGen.TypeTerm

/-! # Links of types

  A link is the only name in a type that refers to something outside it, so whatever is done to
  links is a map over names. `mapLinks` is that map; `relink` is the case that turns one name into
  another.

  * **`links_mapLinks`**: the links of a mapped type are the mapped links.
  * **`mapLinks_mapLinks`**, **`mapLinks_eq_self_iff`**: mapping composes, and a map changes nothing
    exactly if it fixes every link. Together they undo a renaming that has an inverse on the
    links. -/

namespace ClientGen.TypeTerm

/-! ## Mapping links -/

mutual

/-- A type with every link led through a map of names. -/
def mapLinks (f : String → String) : TypeTerm → TypeTerm
  | .named name => .named (f name)
  | .array element => .array (mapLinks f element)
  | .record fields => .record (mapFieldLinks f fields)
  | .string => .string
  | .number => .number
  | .boolean => .boolean
  | .any => .any
  | .object => .object

def mapFieldLinks (f : String → String) : List Field → List Field
  | [] => []
  | ⟨name, type, optional⟩ :: rest =>
    ⟨name, mapLinks f type, optional⟩ :: mapFieldLinks f rest

end

mutual

theorem links_mapLinks (f : String → String) :
    ∀ t : TypeTerm, (t.mapLinks f).links = t.links.map f
  | .named name => by simp [mapLinks, links]
  | .array element => by
    simp only [mapLinks, links]
    exact links_mapLinks f element
  | .record fields => by
    simp only [mapLinks, links]
    exact fieldLinks_mapFieldLinks f fields
  | .string | .number | .boolean | .any | .object => by simp [mapLinks, links]

theorem fieldLinks_mapFieldLinks (f : String → String) :
    ∀ fields : List Field, fieldLinks (mapFieldLinks f fields) = (fieldLinks fields).map f
  | [] => by simp [mapFieldLinks, fieldLinks]
  | ⟨name, type, optional⟩ :: rest => by
    simp only [mapFieldLinks, fieldLinks, List.map_append]
    rw [links_mapLinks f type, fieldLinks_mapFieldLinks f rest]

end

mutual

theorem mapLinks_mapLinks (f g : String → String) :
    ∀ t : TypeTerm, (t.mapLinks f).mapLinks g = t.mapLinks (g ∘ f)
  | .named name => by simp [mapLinks]
  | .array element => by
    simp only [mapLinks]
    rw [mapLinks_mapLinks f g element]
  | .record fields => by
    simp only [mapLinks]
    rw [mapFieldLinks_mapFieldLinks f g fields]
  | .string | .number | .boolean | .any | .object => by simp [mapLinks]

theorem mapFieldLinks_mapFieldLinks (f g : String → String) :
    ∀ fields : List Field,
      mapFieldLinks g (mapFieldLinks f fields) = mapFieldLinks (g ∘ f) fields
  | [] => by simp [mapFieldLinks]
  | ⟨name, type, optional⟩ :: rest => by
    simp only [mapFieldLinks]
    rw [mapLinks_mapLinks f g type, mapFieldLinks_mapFieldLinks f g rest]

end

mutual

theorem mapLinks_eq_self {f : String → String} :
    ∀ t : TypeTerm, (∀ n ∈ t.links, f n = n) → t.mapLinks f = t
  | .named name, h => by
    simp only [mapLinks]
    rw [h name (by simp [links])]
  | .array element, h => by
    simp only [mapLinks]
    rw [mapLinks_eq_self element h]
  | .record fields, h => by
    simp only [mapLinks]
    rw [mapFieldLinks_eq_self fields h]
  | .string, _ | .number, _ | .boolean, _ | .any, _ | .object, _ => by simp [mapLinks]

theorem mapFieldLinks_eq_self {f : String → String} :
    ∀ fields : List Field, (∀ n ∈ fieldLinks fields, f n = n) → mapFieldLinks f fields = fields
  | [], _ => by simp [mapFieldLinks]
  | ⟨name, type, optional⟩ :: rest, h => by
    simp only [mapFieldLinks]
    have htype : ∀ n ∈ type.links, f n = n := by
      intro n hn
      exact h n (List.mem_append.mpr (Or.inl hn))
    have hrest : ∀ n ∈ fieldLinks rest, f n = n := by
      intro n hn
      exact h n (List.mem_append.mpr (Or.inr hn))
    rw [mapLinks_eq_self type htype, mapFieldLinks_eq_self rest hrest]

end

/-- A map of names changes a type exactly if it changes one of its links. -/
theorem mapLinks_eq_self_iff {f : String → String} {t : TypeTerm} :
    t.mapLinks f = t ↔ ∀ n ∈ t.links, f n = n := by
  refine ⟨fun h => ?_, mapLinks_eq_self t⟩
  -- Only the links are compared; the rest of the type has no say.
  have hlinks : t.links.map f = t.links.map id := by
    rw [← links_mapLinks, h, List.map_id]
  exact List.map_inj_left.mp hlinks

/-- A renaming of links is undone by any map that inverts it on the links of the type. -/
theorem mapLinks_inverse {f g : String → String} {t : TypeTerm}
    (h : ∀ n ∈ t.links, g (f n) = n) : (t.mapLinks f).mapLinks g = t := by
  rw [mapLinks_mapLinks]
  exact mapLinks_eq_self t h

/-! ## Turning one link into another -/

/-- The map of names behind `relink`. -/
def replaceName (source target name : String) : String :=
  if name = source then target else name

mutual

theorem relink_eq_mapLinks (source target : String) :
    ∀ t : TypeTerm, t.relink source target = t.mapLinks (replaceName source target)
  | .named name => by simp [relink, mapLinks, replaceName]
  | .array element => by
    simp only [relink, mapLinks]
    rw [relink_eq_mapLinks source target element]
  | .record fields => by
    simp only [relink, mapLinks]
    rw [relinkFields_eq_mapFieldLinks source target fields]
  | .string | .number | .boolean | .any | .object => by simp [relink, mapLinks]

theorem relinkFields_eq_mapFieldLinks (source target : String) :
    ∀ fields : List Field,
      relinkFields source target fields = mapFieldLinks (replaceName source target) fields
  | [] => by simp [relinkFields, mapFieldLinks]
  | ⟨name, type, optional⟩ :: rest => by
    simp only [relinkFields, mapFieldLinks]
    rw [relink_eq_mapLinks source target type, relinkFields_eq_mapFieldLinks source target rest]

end

end ClientGen.TypeTerm
