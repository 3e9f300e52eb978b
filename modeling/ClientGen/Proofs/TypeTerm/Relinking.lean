import ClientGen.Proofs.TypeTerm.Links

/-! # Turned links

  Whatever is done to the links of a type, the rest of it stays: how types are nested, what fields
  are called, in which order they stand and which of them may be missing. `SameShape` says this of
  two types without saying how one is made from the other.

  * **A type is known by its shape and its links**: links stand in a type from left to right, so
    two types of one shape that link to the same names in the same order are equal
    (`SameShape.eq_of_links`).
  * **Turning a link is exact**: the turned type is the only type of the same shape in which every
    link to the source leads to the target and every other link to where it led before. It can be
    turned back exactly if the target was free (`relink_exact`). -/

namespace ClientGen.TypeTerm

/-! ## Shapes -/

mutual

/-- Two types that are built alike. Where one has a link the other has one too, maybe to another
    name. -/
inductive SameShape : TypeTerm → TypeTerm → Prop where
  | string : SameShape .string .string
  | number : SameShape .number .number
  | boolean : SameShape .boolean .boolean
  | any : SameShape .any .any
  | object : SameShape .object .object
  /-- Links, wherever they lead. -/
  | named (m n : String) : SameShape (.named m) (.named n)
  | array {t u : TypeTerm} : SameShape t u → SameShape (.array t) (.array u)
  | record {fields fields' : List Field} :
      SameFields fields fields' → SameShape (.record fields) (.record fields')

/-- Fields that are built alike: in the same order and number, each with the same name, the same
    mark and a type that is built alike. -/
inductive SameFields : List Field → List Field → Prop where
  | nil : SameFields [] []
  | cons (name : String) (optional : Bool) {t u : TypeTerm} {rest rest' : List Field} :
      SameShape t u → SameFields rest rest' →
        SameFields (⟨name, t, optional⟩ :: rest) (⟨name, u, optional⟩ :: rest')

end

mutual

theorem sameShape_mapLinks (f : String → String) : ∀ t : TypeTerm, SameShape t (t.mapLinks f)
  | .named name => .named name (f name)
  | .array element => .array (sameShape_mapLinks f element)
  | .record fields => .record (sameFields_mapFieldLinks f fields)
  | .string => .string
  | .number => .number
  | .boolean => .boolean
  | .any => .any
  | .object => .object

theorem sameFields_mapFieldLinks (f : String → String) :
    ∀ fields : List Field, SameFields fields (mapFieldLinks f fields)
  | [] => .nil
  | ⟨name, type, optional⟩ :: rest =>
    .cons name optional (sameShape_mapLinks f type) (sameFields_mapFieldLinks f rest)

end

mutual

/-- Types of one shape have equally many links. -/
theorem SameShape.length_links : ∀ {t u : TypeTerm}, SameShape t u →
    t.links.length = u.links.length
  | _, _, .named _ _ => rfl
  | _, _, .array h => h.length_links
  | _, _, .record h => h.length_fieldLinks
  | _, _, .string | _, _, .number | _, _, .boolean | _, _, .any | _, _, .object => rfl

theorem SameFields.length_fieldLinks : ∀ {fields fields' : List Field},
    SameFields fields fields' → (fieldLinks fields).length = (fieldLinks fields').length
  | _, _, .nil => rfl
  | _, _, .cons _ _ htype hrest => by
    simp only [fieldLinks, List.length_append]
    rw [htype.length_links, hrest.length_fieldLinks]

end

mutual

/-- A type is known by its shape and its links. -/
theorem SameShape.eq_of_links : ∀ {t u v : TypeTerm},
    SameShape t u → SameShape t v → u.links = v.links → u = v
  | _, _, _, .named _ _, .named _ _, hlinks => by rw [List.singleton_inj.mp hlinks]
  | _, _, _, .array h, .array h', hlinks => by rw [h.eq_of_links h' hlinks]
  | _, _, _, .record h, .record h', hlinks => by rw [h.eq_of_fieldLinks h' hlinks]
  | _, _, _, .string, .string, _ => rfl
  | _, _, _, .number, .number, _ => rfl
  | _, _, _, .boolean, .boolean, _ => rfl
  | _, _, _, .any, .any, _ => rfl
  | _, _, _, .object, .object, _ => rfl

theorem SameFields.eq_of_fieldLinks : ∀ {fields fields' fields'' : List Field},
    SameFields fields fields' → SameFields fields fields'' →
      fieldLinks fields' = fieldLinks fields'' → fields' = fields''
  | _, _, _, .nil, .nil, _ => rfl
  | _, _, _, .cons _ _ htype hrest, .cons _ _ htype' hrest', hlinks => by
    -- The first field has equally many links on both sides, so they end at the same place.
    have hlength := htype.length_links.symm.trans htype'.length_links
    obtain ⟨hfirst, hlater⟩ := List.append_inj hlinks hlength
    rw [htype.eq_of_links htype' hfirst, hrest.eq_of_fieldLinks hrest' hlater]

end

/-! ## Turning a link and turning it back -/

variable {source target name : String}

theorem replaceName_eq_self_iff :
    replaceName source target name = name ↔ name ≠ source ∨ target = source := by
  unfold replaceName
  by_cases h : name = source
  · simp [h]
  · simp [h]

/-- The replacement the other way round gives a name back, but it takes the target for a name that
    was replaced. -/
theorem replaceName_replaceName_eq_self_iff :
    replaceName target source (replaceName source target name) = name
      ↔ name ≠ target ∨ target = source := by
  by_cases h : name = source
  · subst h
    have hturned : replaceName name target name = target := if_pos rfl
    have hback : replaceName target name target = name := if_pos rfl
    rw [hturned, hback]
    exact iff_of_true rfl (Decidable.not_or_of_imp Eq.symm)
  · have hkept : replaceName source target name = name := if_neg h
    rw [hkept, replaceName_eq_self_iff, eq_comm (a := source)]

/-- Names differ from one name, unless something holds anyway. -/
theorem forall_mem_ne_or_iff {names : List String} {p : Prop} :
    (∀ n ∈ names, n ≠ name ∨ p) ↔ name ∉ names ∨ p := by
  by_cases hp : p
  · simp [hp]
  · simp only [hp, or_false]
    exact List.forall_mem_ne'

theorem relink_eq_self_iff {t : TypeTerm} :
    t.relink source target = t ↔ source ∉ t.links ∨ target = source := by
  rw [relink_eq_mapLinks, mapLinks_eq_self_iff]
  simp only [replaceName_eq_self_iff]
  exact forall_mem_ne_or_iff

theorem relink_relink_eq_self_iff {t : TypeTerm} :
    (t.relink source target).relink target source = t ↔ target ∉ t.links ∨ target = source := by
  rw [relink_eq_mapLinks, relink_eq_mapLinks, mapLinks_mapLinks, mapLinks_eq_self_iff]
  simp only [Function.comp_apply, replaceName_replaceName_eq_self_iff]
  exact forall_mem_ne_or_iff

/-- The turned type is the only one of the same shape that has its links. -/
theorem eq_relink_iff {t u : TypeTerm} :
    u = t.relink source target
      ↔ SameShape t u ∧ u.links = t.links.map (replaceName source target) := by
  -- A type is fixed by its shape and its links, and relinking has both.
  have hshape : SameShape t (t.relink source target) := by
    rw [relink_eq_mapLinks]
    exact sameShape_mapLinks _ t
  have hlinks : (t.relink source target).links = t.links.map (replaceName source target) := by
    rw [relink_eq_mapLinks, links_mapLinks]
  constructor
  · rintro rfl
    exact ⟨hshape, hlinks⟩
  · rintro ⟨hshape', hlinks'⟩
    exact hshape'.eq_of_links hshape (hlinks'.trans hlinks.symm)

/-- **Turning a link is exact.** The turned type has the shape of the type, and its links are those
    of the type with the target in place of the source; no other type is like this. Turning the link
    back restores the type exactly if the target was no link of it, and the type stays as it is
    exactly if the source was none, unless source and target are the same. -/
theorem relink_exact (source target : String) (t : TypeTerm) :
    (∀ u, u = t.relink source target
        ↔ SameShape t u ∧ u.links = t.links.map (replaceName source target))
      ∧ ((t.relink source target).relink target source = t
        ↔ target ∉ t.links ∨ target = source)
      ∧ (t.relink source target = t ↔ source ∉ t.links ∨ target = source) :=
  ⟨fun _ => eq_relink_iff, relink_relink_eq_self_iff, relink_eq_self_iff⟩

/-- A field keeps its name where a link of that name is turned. The new name is a link already, so
    turning back takes both links for the old one. -/
example :
    let t : TypeTerm := .record [⟨"Pet", .array (.named "Pet"), true⟩, ⟨"tag", .named "Tag", false⟩]
    t.relink "Pet" "Tag"
        = .record [⟨"Pet", .array (.named "Tag"), true⟩, ⟨"tag", .named "Tag", false⟩]
      ∧ ((t.relink "Pet" "Tag").relink "Tag" "Pet").links = ["Pet", "Pet"] :=
  ⟨rfl, rfl⟩

end ClientGen.TypeTerm
