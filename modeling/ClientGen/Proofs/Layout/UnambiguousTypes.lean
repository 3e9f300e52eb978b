import ClientGen.Layout.Flow
import ClientGen.Proofs.Layout.Bracketed
import ClientGen.Proofs.Reading.Types

/-! # Written types are unambiguous

  The text of a type with plain links can be read by the rules of the generated language alone, and
  what is read is the type (`type?_type`). So types with different fields, another order of fields,
  other optional marks or another nesting have different texts (`typeText_eq_iff`).

  A type is read up to a mark that cannot belong to it: a comma, a bar or an angle bracket. -/

namespace ClientGen.Layout.Flow

open Reading

/-! ## Characters of types -/

def typeChars (level : Nat) (t : TypeTerm) : List Char := (type level t).toList

/-- What stands behind the key of a field: a question mark if the field may be missing, and the
    type. -/
def annotationChars (level : Nat) (f : Field) : List Char :=
  (if f.optional then ['?'] else []) ++ ':' :: ' ' :: typeChars level f.type

def fieldChars (level : Nat) (f : Field) : List Char :=
  (keyText f.name).toList ++ annotationChars level f

theorem typeChars_array (level : Nat) (element : TypeTerm) :
    typeChars level (.array element)
      = "Array".toList ++ '<' :: (typeChars level element ++ ['>']) := by
  simp [typeChars, type]

theorem toList_fieldTexts (level : Nat) (fields : List Field) :
    (fieldTexts level fields).map String.toList = fields.map (fieldChars level) := by
  induction fields with
  | nil => rfl
  | cons f rest ih =>
    obtain ⟨name, t, optional⟩ := f
    rw [fieldTexts, List.map_cons, List.map_cons, ih]
    cases optional <;> simp [fieldChars, annotationChars, typeChars]

theorem typeChars_record_nil (level : Nat) :
    typeChars level (.record []) = ['\x7b', '|', '|', '\x7d'] := by
  simp [typeChars, type, fieldTexts, Text.bracketed]

theorem typeChars_record_cons (level : Nat) (f : Field) (fields : List Field) :
    typeChars level (.record (f :: fields))
      = '\x7b' :: '|' :: (lineGap (level + 1)
          ++ List.intercalate (',' :: lineGap (level + 1))
              ((f :: fields).map (fieldChars (level + 1)))
          ++ (lineGap level ++ ['|', '\x7d'])) := by
  have hopening : "\x7b|".toList = ['\x7b', '|'] := rfl
  have hclosing : "|\x7d".toList = ['|', '\x7d'] := rfl
  obtain ⟨name, t, optional⟩ := f
  rw [typeChars, type, ← toList_fieldTexts, fieldTexts, toList_bracketed_cons, hopening, hclosing]
  rfl

/-! ## What follows -/

def typeEnds : List Char := [',', '|', '>']

theorem isIdentifierPart_of_mem_typeEnds : ∀ c ∈ typeEnds, Text.isIdentifierPart c = false := by
  intro c hc
  simp only [typeEnds, List.mem_cons, List.not_mem_nil, or_false] at hc
  rcases hc with rfl | rfl | rfl <;> decide

/-! ## Types -/

/-- A type is read up to a mark behind it. -/
def ReadsType (level : Nat) (t : TypeTerm) : Prop :=
  ∀ gap rest, IsGap gap → Ahead typeEnds rest →
    type? (gap ++ typeChars level t ++ rest) = some (t, rest)

/-- Every type that is written as a word is read as what the word stands for. -/
theorem readsType_word {level : Nat} {t : TypeTerm} {word : String}
    (hword : Text.isIdentifier word = true) (htext : type level t = word)
    (hmeaning : typeOfWord word = t) : ReadsType level t := by
  intro gap rest hgap hrest
  have hparts := hrest.isIdentifierPart_eq_false isIdentifierPart_of_mem_typeEnds
  have hbrace : mark? '\x7b' (gap ++ word.toList ++ rest) = none :=
    mark?_name_eq_none hgap hword (by decide) rest
  have hread : word? (gap ++ word.toList ++ rest) = some (word, rest) :=
    word?_gap hgap hword hparts
  have hangle : mark? '<' rest = none := mark?_eq_none hrest (by decide)
  have hshorter : rest.length < (gap ++ word.toList ++ rest).length := by
    obtain ⟨c, cs, hcs, _⟩ := isIdentifier_cons hword
    simp only [hcs, List.length_append, List.length_cons]
    omega
  rw [typeChars, htext, type?_word hbrace hread hshorter hangle, hmeaning]

/-- Something is written for every type, so what is left behind it is shorter. -/
theorem length_typeChars_pos {t : TypeTerm} (level : Nat) (h : t.IsPlain) :
    0 < (typeChars level t).length := by
  cases t with
  | string | number | boolean | any | object => simp [typeChars, type]
  | named name =>
    obtain ⟨c, cs, hcs, _⟩ := isIdentifier_cons (TypeTerm.isPlain_named.mp h).1
    have htext : typeChars level (.named name) = c :: cs := hcs
    rw [htext]
    exact Nat.succ_pos _
  | array element =>
    rw [typeChars_array]
    exact Nat.succ_pos _
  | record fields =>
    cases fields with
    | nil =>
      rw [typeChars_record_nil]
      exact Nat.succ_pos _
    | cons f fields =>
      rw [typeChars_record_cons]
      exact Nat.succ_pos _

theorem readsType_array {level : Nat} {element : TypeTerm} (hplain : element.IsPlain)
    (h : ReadsType level element) : ReadsType level (.array element) := by
  intro gap rest hgap _
  obtain ⟨later, hlater⟩ : ∃ later, later = '>' :: rest := ⟨_, rfl⟩
  obtain ⟨inside, hinside⟩ : ∃ inside, inside = [] ++ typeChars level element ++ later := ⟨_, rfl⟩
  have hsplit : gap ++ typeChars level (.array element) ++ rest
      = gap ++ "Array".toList ++ '<' :: inside := by
    rw [typeChars_array, hinside, hlater]
    simp
  -- A link called `Array` has the same word; the angle bracket behind the word makes it a list.
  have hArray : Text.isIdentifier "Array" = true := by decide
  have hparts : ∀ c ∈ ('<' :: inside).head?, Text.isIdentifierPart c = false :=
    isIdentifierPart_head? (by decide) inside
  have hahead : Ahead typeEnds later := by
    rw [hlater]
    exact ahead_gap isGap_nil (by decide) (by decide) rest
  have hread : type? inside = some (element, later) := by
    rw [hinside]
    exact h [] later isGap_nil hahead
  have hclosing : mark? '>' later = some rest := by
    rw [hlater]
    exact mark?_gap isGap_nil (by decide) rest
  rw [hsplit]
  refine type?_list (mark?_name_eq_none hgap hArray (by decide) _) (word?_gap hgap hArray hparts)
    ?behindWord (mark?_gap isGap_nil (by decide) inside) hread ?behindElement hclosing
  case behindWord =>
    have hpos : 0 < "Array".toList.length := by decide
    simp only [List.length_append]
    omega
  case behindElement =>
    have hpos := length_typeChars_pos level hplain
    rw [hinside]
    simp only [List.nil_append, List.length_append]
    omega

/-! ## Fields -/

/-- A field begins with its key, so with no blank and with no bar. -/
theorem fieldChars_cons (level : Nat) (f : Field) :
    ∃ c cs, fieldChars level f = c :: cs ∧ isBlank c = false ∧ c ≠ '|' := by
  obtain ⟨c, cs, hcs, hc⟩ := keyText_cons f.name
  refine ⟨c, cs ++ annotationChars level f, by rw [fieldChars, hcs, List.cons_append], ?_, ?_⟩
  · -- A key begins with a character of identifiers, or with a quote.
    rcases hc with hc | rfl
    · exact isBlank_of_isIdentifierPart hc
    · decide
  · rintro rfl
    rcases hc with hc | hc
    · revert hc
      decide
    · revert hc
      decide

/-- Behind the colon the type is read. -/
theorem annotation?_chars {level : Nat} {t : TypeTerm} (h : ReadsType level t) {rest : List Char}
    (hrest : Ahead typeEnds rest) :
    annotation? (':' :: ([' '] ++ typeChars level t ++ rest)) = some (t, rest) := by
  have hcolon : mark? ':' (':' :: ([' '] ++ typeChars level t ++ rest))
      = some ([' '] ++ typeChars level t ++ rest) := mark?_gap isGap_nil (by decide) _
  rw [annotation?_eq hcolon]
  exact h [' '] rest isGap_space hrest

/-- A field is read up to a comma or the bar that closes its record. -/
theorem field?_fieldChars {level : Nat} {f : Field} (h : ReadsType level f.type)
    {gap rest : List Char} (hgap : IsGap gap) (hrest : Ahead [',', '|'] rest) :
    field? (gap ++ fieldChars level f ++ rest) = some (f, rest) := by
  obtain ⟨name, t, optional⟩ := f
  have htype := annotation?_chars h (hrest.mono (by decide))
  obtain ⟨later, hlater⟩ :
      ∃ later, later = annotationChars level ⟨name, t, optional⟩ ++ rest := ⟨_, rfl⟩
  have hsplit : gap ++ fieldChars level ⟨name, t, optional⟩ ++ rest
      = gap ++ (keyText name).toList ++ later := by
    rw [hlater, fieldChars]
    simp only [List.append_assoc]
  have hshorter : later.length < (gap ++ (keyText name).toList ++ later).length := by
    obtain ⟨c, cs, hcs, _⟩ := keyText_cons name
    simp only [hcs, List.length_append, List.length_cons]
    omega
  rw [hsplit]
  -- The mark behind the key says whether the field may be missing.
  cases optional with
  | false =>
    have hcolon : later = ':' :: ([' '] ++ typeChars level t ++ rest) := by
      rw [hlater, annotationChars]
      simp
    have hkey : key? (gap ++ (keyText name).toList ++ later) = some (name, later) := by
      apply key?_gap hgap
      rw [hcolon]
      exact isIdentifierPart_head? (by decide) _
    have hmark : mark? '?' later = none := by
      rw [hcolon]
      exact mark?_gap_of_ne isGap_nil (by decide) (by decide) _
    rw [field?_required hkey hshorter hmark, hcolon, htype]
    rfl
  | true =>
    have hquestion : later = '?' :: ':' :: ([' '] ++ typeChars level t ++ rest) := by
      rw [hlater, annotationChars]
      simp
    have hkey : key? (gap ++ (keyText name).toList ++ later) = some (name, later) := by
      apply key?_gap hgap
      rw [hquestion]
      exact isIdentifierPart_head? (by decide) _
    have hmark : mark? '?' later = some (':' :: ([' '] ++ typeChars level t ++ rest)) := by
      rw [hquestion]
      exact mark?_gap isGap_nil (by decide) _
    rw [field?_optional hkey hshorter hmark, htype]
    rfl

/-! ## Records -/

theorem readsType_record {level : Nat} {fields : List Field}
    (h : ∀ f ∈ fields, ReadsType (level + 1) f.type) : ReadsType level (.record fields) := by
  intro gap rest hgap _
  have hclosing : mark? '\x7d' ('\x7d' :: rest) = some rest := mark?_gap isGap_nil (by decide) rest
  cases fields with
  | nil =>
    -- The two bars stand side by side, so the list of fields ends where it begins.
    have hsplit : gap ++ typeChars level (.record []) ++ rest
        = gap ++ '\x7b' :: '|' :: '|' :: '\x7d' :: rest := by
      rw [typeChars_record_nil]
      simp
    have hbar : ∀ cs : List Char, mark? '|' ('|' :: cs) = some cs :=
      mark?_gap isGap_nil (by decide)
    rw [hsplit]
    exact type?_record (mark?_gap hgap (by decide) _) (hbar _) (listed?_nil _ (hbar _))
      (Nat.lt_succ_self _) hclosing
  | cons f fields =>
    obtain ⟨inside, hinside⟩ : ∃ inside, inside = lineGap (level + 1)
        ++ List.intercalate (',' :: lineGap (level + 1))
            ((f :: fields).map (fieldChars (level + 1)))
        ++ (lineGap level ++ '|' :: '\x7d' :: rest) := ⟨_, rfl⟩
    have hsplit : gap ++ typeChars level (.record (f :: fields)) ++ rest
        = gap ++ '\x7b' :: '|' :: inside := by
      rw [typeChars_record_cons, hinside]
      simp
    have hread : listed? '|' (fun cs _ => field? cs) inside (Nat.le_refl _)
        = some ((f :: fields).map id, '\x7d' :: rest) := by
      refine listed?_intercalate (fieldChars (level + 1)) (isGap_lineGap (level + 1))
        (isGap_lineGap level) (by decide) (by decide) (List.cons_ne_nil f fields)
        (fun x _ => fieldChars_cons (level + 1) x) ?read (isGap_lineGap (level + 1)) _ hinside
      case read =>
        intro x hx gap rest _ hgap hrest
        exact field?_fieldChars (h x hx) hgap hrest
    rw [List.map_id] at hread
    have hshorter : ('\x7d' :: rest).length < inside.length := by
      rw [hinside]
      simp only [List.length_append, List.length_cons]
      omega
    rw [hsplit]
    exact type?_record (mark?_gap hgap (by decide) _) (mark?_gap isGap_nil (by decide) inside)
      hread hshorter hclosing

/-! ## All types -/

/-- Every type with plain links is read back. -/
theorem readsType_of_isPlain (t : TypeTerm) : ∀ level, t.IsPlain → ReadsType level t := by
  -- For all levels at once, because the fields of a record are one level further in.
  induction t using TypeTerm.induct with
  | string =>
    intro level _
    exact readsType_word (by decide : Text.isIdentifier "string" = true) rfl rfl
  | number =>
    intro level _
    exact readsType_word (by decide : Text.isIdentifier "number" = true) rfl rfl
  | boolean =>
    intro level _
    exact readsType_word (by decide : Text.isIdentifier "boolean" = true) rfl rfl
  | any =>
    intro level _
    exact readsType_word (by decide : Text.isIdentifier "any" = true) rfl rfl
  | object =>
    intro level _
    exact readsType_word (by decide : Text.isIdentifier "Object" = true) rfl rfl
  | named name =>
    intro level h
    obtain ⟨hname, hword⟩ := TypeTerm.isPlain_named.mp h
    exact readsType_word hname rfl (typeOfWord_link hword)
  | array element ih =>
    intro level h
    have helement := TypeTerm.isPlain_array.mp h
    exact readsType_array helement (ih level helement)
  | record fields ih =>
    intro level h
    have hfields := TypeTerm.isPlain_record.mp h
    exact readsType_record fun f hf => ih f hf (level + 1) (hfields f hf)

/-- **Reading a written type** gives the type, and nothing is left. -/
theorem type?_type {t : TypeTerm} (h : t.IsPlain) (level : Nat) :
    type? (type level t).toList = some (t, []) := by
  have hend : Ahead typeEnds [] := fun c hc => nomatch hc
  have hread := readsType_of_isPlain t level h [] [] isGap_nil hend
  rwa [List.nil_append, List.append_nil] at hread

/-- **Written types are unambiguous**: on lines of one level two types have the same text exactly if
    they are the same, and the type is what is read from the text. -/
theorem typeText_eq_iff {a b : TypeTerm} (ha : a.IsPlain) (hb : b.IsPlain) (level : Nat) :
    (type level a = type level b ↔ a = b) ∧ type? (type level a).toList = some (a, []) := by
  have hread := type?_type ha level
  refine ⟨⟨?_, fun h => by rw [h]⟩, hread⟩
  intro h
  rw [h, type?_type hb level] at hread
  exact (congrArg Prod.fst (Option.some.inj hread)).symm

/-- A record with two fields, both of them lists of links to a definition called `Array`. -/
def twoFields : TypeTerm :=
  .record [⟨"a", .array (.named "Array"), false⟩, ⟨"b", .array (.named "Array"), true⟩]

/-- A record with one field, whose name looks like the first of these and the key of the second. -/
def oneField : TypeTerm := .record [⟨"a: Array<Array>,\n  b?", .array (.named "Array"), false⟩]

theorem typeText_eq_iff_lookalikes :
    oneField.IsPlain ∧ twoFields.IsPlain
      ∧ (type 0 oneField = type 0 twoFields ↔ oneField = twoFields)
      ∧ type? (type 0 oneField).toList = some (oneField, []) :=
  ⟨by decide, by decide, typeText_eq_iff (by decide) (by decide) 0⟩

/-- A link with the word of another type is written like this type. -/
example : type 0 (.named "string") = type 0 .string := rfl

end ClientGen.Layout.Flow
