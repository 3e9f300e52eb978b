import ClientGen.Proofs.Layout.Bracketed
import ClientGen.Proofs.Reading.Expressions

/-! # Written expressions are unambiguous

  With templates between backquotes, the text of an expression can be read by the rules of the
  generated language alone, and what is read is the expression with the texts of its templates
  merged (`expr?_expr`). So different expressions have different texts, unless they differ in how
  their templates are cut into texts (`expr_eq_iff`).

  An expression is read up to a mark that cannot belong to it: where a term may be followed by a
  plus sign, a whole expression may not. The names in it must be identifiers; texts, templates and
  keys may be anything. -/

namespace ClientGen.Layout

open Reading

/-! ## Characters of expressions -/

def chars (level : Nat) (e : Expr) : List Char := (expr .backquoted level e).toList

def memberChars (level : Nat) (m : String × Expr) : List Char :=
  (keyText m.1).toList ++ ':' :: ' ' :: chars level m.2

theorem chars_template (level : Nat) (parts : List TemplatePiece) :
    chars level (.template parts)
      = '\x60' :: ((templateParts .backquoted level parts).toList ++ ['\x60']) := by
  simp [chars, expr]

theorem chars_concat (level : Nat) (left right : Expr) :
    chars level (.concat left right)
      = chars level left ++ [' '] ++ '+' :: ' ' ::
          (if isSum .backquoted right then '(' :: (chars level right ++ [')'])
            else chars level right) := by
  cases hsum : isSum .backquoted right <;> simp [chars, expr, operand, hsum]

def argumentChars (level : Nat) (es : List Expr) : List Char :=
  '(' :: (List.intercalate [',', ' '] (es.map (chars level)) ++ [')'])

theorem toList_arguments (level : Nat) (es : List Expr) :
    ("(" ++ ", ".intercalate (exprs .backquoted level es) ++ ")").toList
      = argumentChars level es := by
  have hchars : (es.map (expr .backquoted level)).map String.toList = es.map (chars level) := by
    rw [List.map_map]
    rfl
  rw [exprs_eq, argumentChars]
  simp [String.toList_intercalate, ← hchars]

theorem chars_call (level : Nat) (callee : String) (es : List Expr) :
    chars level (.call callee es) = callee.toList ++ argumentChars level es := by
  rw [chars, expr, ← toList_arguments]
  simp only [String.toList_append, List.append_assoc]

theorem chars_construct (level : Nat) (callee : String) (es : List Expr) :
    chars level (.construct callee es)
      = "new".toList ++ ([' '] ++ callee.toList ++ argumentChars level es) := by
  rw [chars, expr, ← toList_arguments]
  simp

theorem chars_object_nil (level : Nat) : chars level (.object []) = ['\x7b', '\x7d'] := by
  simp [chars, expr, memberTexts, Text.bracketed]

theorem chars_object_cons (level : Nat) (m : String × Expr) (members : List (String × Expr)) :
    chars level (.object (m :: members))
      = '\x7b' :: (lineGap (level + 1)
          ++ List.intercalate (',' :: lineGap (level + 1))
              ((m :: members).map (memberChars (level + 1)))
          ++ (lineGap level ++ ['\x7d'])) := by
  have hmembers : (memberTexts .backquoted (level + 1) (m :: members)).map String.toList
      = (m :: members).map (memberChars (level + 1)) := by
    rw [memberTexts_eq, List.map_map]
    apply List.map_congr_left
    intro m _
    simp [memberChars, chars]
  rw [chars, expr, ← hmembers]
  exact toList_bracketed_cons "\x7b" "\x7d" level _ _

/-! ## What comes first -/

/-- The characters with which something written begins: no blank, and no mark that closes or opens
    parentheses or closes an object. -/
def Begins (cs : List Char) : Prop :=
  ∃ c rest, cs = c :: rest ∧ isBlank c = false ∧ c ∉ ['(', ')', '\x7d']

theorem Begins.append {cs : List Char} (h : Begins cs) (ds : List Char) : Begins (cs ++ ds) := by
  obtain ⟨c, rest, rfl, hblank, hc⟩ := h
  exact ⟨c, rest ++ ds, rfl, hblank, hc⟩

theorem Begins.length_pos {cs : List Char} (h : Begins cs) : 0 < cs.length := by
  obtain ⟨c, rest, rfl, _⟩ := h
  exact Nat.succ_pos _

theorem begins_name {name : String} (h : Text.isIdentifier name = true) : Begins name.toList := by
  obtain ⟨c, cs, hcs, _, hparts⟩ := isIdentifier_cons h
  have hc := hparts c List.mem_cons_self
  refine ⟨c, cs, hcs, isBlank_of_isIdentifierPart hc, ?_⟩
  intro hmem
  simp only [List.mem_cons, List.not_mem_nil, or_false] at hmem
  rcases hmem with rfl | rfl | rfl <;> revert hc <;> decide

theorem begins_quote (s : String) : Begins (quote s).toList :=
  ⟨'\x27', _, toList_quote s, by decide, by decide⟩

theorem begins_keyText (name : String) : Begins (keyText name).toList := by
  unfold keyText
  split
  · exact begins_name ‹_›
  · exact begins_quote name

theorem begins_memberChars (level : Nat) (m : String × Expr) : Begins (memberChars level m) :=
  (begins_keyText m.1).append _

theorem begins_chars {e : Expr} (level : Nat) (h : e.IsNamed) : Begins (chars level e) := by
  induction e using Expr.induct with
  | ident name => exact begins_name (Expr.isNamed_ident.mp h)
  | text value => exact begins_quote value
  | template parts =>
    rw [chars_template]
    exact ⟨'\x60', _, rfl, by decide, by decide⟩
  | concat left right hleft hright =>
    rw [chars_concat]
    -- Only the left operand shows at the beginning.
    exact ((hleft (Expr.isNamed_concat.mp h).1).append _).append _
  | call callee es =>
    rw [chars_call]
    exact (begins_name (Expr.isNamed_call.mp h).1).append _
  | construct callee es =>
    rw [chars_construct]
    exact (begins_name (by decide)).append _
  | object members =>
    cases members with
    | nil => exact ⟨'\x7b', _, chars_object_nil level, by decide, by decide⟩
    | cons m members =>
      rw [chars_object_cons]
      exact ⟨'\x7b', _, rfl, by decide, by decide⟩

/-! ## What follows -/

def ends : List Char := [')', ',', '\x7d']

def pauses : List Char := '+' :: ends

theorem isIdentifierPart_of_mem_pauses : ∀ c ∈ pauses, Text.isIdentifierPart c = false := by
  intro c hc
  simp only [pauses, ends, List.mem_cons, List.not_mem_nil, or_false] at hc
  rcases hc with rfl | rfl | rfl | rfl <;> decide

theorem ends_subset_pauses : ends ⊆ pauses := List.subset_cons_self _ _

theorem further?_of_ahead {rest : List Char} (h : Ahead ends rest) (left : Expr) :
    further? left rest = some (left, rest) :=
  further?_of_none (mark?_eq_none h (by decide)) left

/-! ## Terms -/

/-- An expression that is no sum is read as a term, up to a plus sign or a mark behind it. -/
def ReadAsTerm (level : Nat) (e : Expr) : Prop :=
  ∀ gap rest, IsGap gap → Ahead pauses rest →
    term? (gap ++ chars level e ++ rest) = some (e.merged, rest)

/-- What is read of an expression, up to a plus sign or a mark behind it. -/
structure Reads (level : Nat) (e : Expr) : Prop where
  /-- An expression that is no sum is a term. -/
  term : isSum .backquoted e = false → ReadAsTerm level e
  /-- An expression is the beginning of a sum. -/
  sum : ∀ gap rest, IsGap gap → Ahead pauses rest →
    expr? (gap ++ chars level e ++ rest) = further? e.merged rest

theorem reads_of_term {level : Nat} {e : Expr} (hnamed : e.IsNamed) (h : ReadAsTerm level e) :
    Reads level e where
  term _ := h
  sum := by
    intro gap rest hgap hrest
    have hpos := (begins_chars level hnamed).length_pos
    -- Something was read, so what is left is shorter.
    refine expr?_of_term? (h gap rest hgap hrest) ?_
    simp only [List.length_append]
    omega

/-- A whole expression. -/
theorem Reads.whole {level : Nat} {e : Expr} (h : Reads level e) {gap rest : List Char}
    (hgap : IsGap gap) (hrest : Ahead ends rest) :
    expr? (gap ++ chars level e ++ rest) = some (e.merged, rest) := by
  rw [h.sum gap rest hgap (hrest.mono ends_subset_pauses), further?_of_ahead hrest]

theorem readAsTerm_text (level : Nat) (value : String) : ReadAsTerm level (.text value) := by
  intro gap rest hgap _
  obtain ⟨later, hquote, hbody⟩ := body?_quote value rest
  have hchar : char? (gap ++ chars level (.text value) ++ rest) = some ('\x27', later) := by
    rw [List.append_assoc, chars, expr, hquote]
    exact char?_gap hgap (by decide) later
  rw [term?_text hchar hbody, String.ofList_toList]
  rfl

theorem readAsTerm_ident {name : String} (level : Nat) (h : Text.isIdentifier name = true) :
    ReadAsTerm level (.ident name) := by
  intro gap rest hgap hrest
  have hparts := hrest.isIdentifierPart_eq_false isIdentifierPart_of_mem_pauses
  have hword : word? rest = none := word?_eq_none hrest isIdentifierPart_of_mem_pauses
  have hmark : mark? '(' rest = none := mark?_eq_none hrest (by decide)
  have hterm := term?_word hgap h hparts
  rw [hword, hmark, if_neg (by simp), if_neg (by simp)] at hterm
  exact hterm

/-- Where arguments stand, no name goes on and none begins. -/
theorem isIdentifierPart_of_mem_opening : ∀ c ∈ ['('], Text.isIdentifierPart c = false := by
  intro c hc
  obtain rfl := List.mem_singleton.mp hc
  decide

theorem ahead_argumentChars (level : Nat) (es : List Expr) (rest : List Char) :
    Ahead ['('] (argumentChars level es ++ rest) :=
  ahead_gap isGap_nil (by decide) (by decide) _

theorem mark?_argumentChars (level : Nat) (es : List Expr) (rest : List Char) :
    mark? '(' (argumentChars level es ++ rest)
      = some (List.intercalate [',', ' '] (es.map (chars level)) ++ [')'] ++ rest) :=
  mark?_gap isGap_nil (by decide) _

/-- Arguments, all of which are read up to a comma or the parenthesis that closes them. -/
theorem arguments?_argumentChars {level : Nat} {es : List Expr} (hnamed : ∀ e ∈ es, e.IsNamed)
    (hreads : ∀ e ∈ es, Reads level e) (rest : List Char) :
    arguments? (argumentChars level es ++ rest) = some (es.map Expr.merged, rest) := by
  rw [arguments?_eq (mark?_argumentChars level es rest)]
  cases es with
  | nil => exact listed?_nil _ (mark?_gap isGap_nil (by decide) rest)
  | cons e es =>
    refine listed?_intercalate (chars level) isGap_space isGap_nil (by decide) (by decide)
      (by simp) ?first ?read isGap_nil _ (by simp)
    case first =>
      intro x hx
      obtain ⟨c, cs, hcs, hblank, hc⟩ := begins_chars level (hnamed x hx)
      exact ⟨c, cs, hcs, hblank, fun hclosing => hc (by simp [hclosing])⟩
    case read =>
      intro x hx gap rest _ hgap hrest
      exact (hreads x hx).whole hgap (hrest.mono (by decide))

theorem readAsTerm_call {level : Nat} {callee : String} {es : List Expr}
    (hcallee : Text.isIdentifier callee = true) (hnamed : ∀ e ∈ es, e.IsNamed)
    (hreads : ∀ e ∈ es, Reads level e) : ReadAsTerm level (.call callee es) := by
  intro gap rest hgap _
  have hahead := ahead_argumentChars level es rest
  have hparts := isIdentifierPart_of_mem_opening
  have hterm := term?_word hgap hcallee (hahead.isIdentifierPart_eq_false hparts)
  rw [word?_eq_none hahead hparts, mark?_argumentChars, if_neg (by simp), Option.isSome_some,
    if_pos rfl, arguments?_argumentChars hnamed hreads] at hterm
  rw [chars_call, ← List.append_assoc, List.append_assoc, hterm, Expr.merged, Expr.mergedAll_eq]
  rfl

theorem readAsTerm_construct {level : Nat} {callee : String} {es : List Expr}
    (hcallee : Text.isIdentifier callee = true) (hnamed : ∀ e ∈ es, e.IsNamed)
    (hreads : ∀ e ∈ es, Reads level e) : ReadAsTerm level (.construct callee es) := by
  intro gap rest hgap _
  have hahead := ahead_argumentChars level es rest
  have hparts := isIdentifierPart_of_mem_opening
  have hword : word? ([' '] ++ callee.toList ++ (argumentChars level es ++ rest))
      = some (callee, argumentChars level es ++ rest) :=
    word?_gap isGap_space hcallee (hahead.isIdentifierPart_eq_false hparts)
  -- The name of the class follows, so the first word is no name.
  have hnew : Text.isIdentifier "new" = true := by decide
  have hspace : ∀ c ∈ ([' '] ++ callee.toList ++ (argumentChars level es ++ rest)).head?,
      Text.isIdentifierPart c = false :=
    isIdentifierPart_head? (by decide) _
  have hshorter : (argumentChars level es ++ rest).length
      < ([' '] ++ callee.toList ++ (argumentChars level es ++ rest)).length := by
    simp only [List.length_append, List.length_singleton]
    omega
  have hterm := term?_word hgap hnew hspace
  rw [if_pos ⟨rfl, by rw [hword]; rfl⟩, onward_eq hword hshorter,
    arguments?_argumentChars hnamed hreads, Option.map_some] at hterm
  rw [chars_construct, Expr.merged, Expr.mergedAll_eq]
  simpa only [List.append_assoc] using hterm

/-- A member of an object, which is read up to a comma or the brace that closes the object. -/
theorem member?_memberChars {level : Nat} {m : String × Expr} (h : Reads level m.2)
    {gap rest : List Char} (hgap : IsGap gap) (hrest : Ahead [',', '\x7d'] rest) :
    member? (gap ++ memberChars level m ++ rest) = some ((m.1, m.2.merged), rest) := by
  -- What is left behind the key.
  obtain ⟨later, hlater⟩ : ∃ later, later = ':' :: ([' '] ++ chars level m.2 ++ rest) := ⟨_, rfl⟩
  have hsplit : gap ++ memberChars level m ++ rest = gap ++ (keyText m.1).toList ++ later := by
    rw [hlater, memberChars]
    simp
  have hkey : key? (gap ++ (keyText m.1).toList ++ later) = some (m.1, later) := by
    apply key?_gap hgap
    rw [hlater]
    exact isIdentifierPart_head? (by decide) _
  have hcolon : mark? ':' later = some ([' '] ++ chars level m.2 ++ rest) := by
    rw [hlater]
    exact mark?_gap isGap_nil (by decide) _
  have hshorter : later.length < (gap ++ (keyText m.1).toList ++ later).length := by
    have hpos := (begins_keyText m.1).length_pos
    simp only [List.length_append]
    omega
  rw [hsplit, member?_eq hkey hshorter hcolon, h.whole isGap_space (hrest.mono (by decide))]
  rfl

theorem readAsTerm_object {level : Nat} {members : List (String × Expr)}
    (hreads : ∀ m ∈ members, Reads (level + 1) m.2) : ReadAsTerm level (.object members) := by
  intro gap rest hgap _
  rw [Expr.merged, Expr.mergedMembers_eq]
  cases members with
  | nil =>
    have hchar : char? (gap ++ chars level (.object []) ++ rest)
        = some ('\x7b', '\x7d' :: rest) := by
      rw [chars_object_nil, List.append_assoc]
      exact char?_gap hgap (by decide) _
    exact term?_object hchar (listed?_nil _ (mark?_gap isGap_nil (by decide) rest))
  | cons m members =>
    -- What is left behind the brace: members, each on a line one level further in.
    obtain ⟨inside, hinside⟩ : ∃ inside, inside = lineGap (level + 1)
        ++ List.intercalate (',' :: lineGap (level + 1))
            ((m :: members).map (memberChars (level + 1)))
        ++ (lineGap level ++ '\x7d' :: rest) := ⟨_, rfl⟩
    have hchar : char? (gap ++ chars level (.object (m :: members)) ++ rest)
        = some ('\x7b', inside) := by
      have hsplit : gap ++ chars level (.object (m :: members)) ++ rest
          = gap ++ '\x7b' :: inside := by
        rw [chars_object_cons, hinside]
        simp
      rw [hsplit]
      exact char?_gap hgap (by decide) _
    refine term?_object hchar (listed?_intercalate (memberChars (level + 1))
      (isGap_lineGap (level + 1)) (isGap_lineGap level) (by decide) (by decide) (by simp) ?first
      ?read (isGap_lineGap (level + 1)) _ hinside)
    case first =>
      intro x _
      obtain ⟨c, cs, hcs, hblank, hc⟩ := begins_memberChars (level + 1) x
      exact ⟨c, cs, hcs, hblank, fun hclosing => hc (by simp [hclosing])⟩
    case read =>
      intro x hx gap rest _ hgap hrest
      exact member?_memberChars (hreads x hx) hgap hrest

/-! ## Templates -/

/-- The parts of a template are read up to the backquote that closes it. -/
theorem parts?_templateParts {level : Nat} {parts : List TemplatePiece}
    (hnamed : ∀ e, .fill e ∈ parts → e.IsNamed) (hreads : ∀ e, .fill e ∈ parts → Reads level e)
    (rest : List Char) :
    parts? ((templateParts .backquoted level parts).toList ++ '\x60' :: rest)
      = some (Expr.mergedParts parts, rest) := by
  induction parts with
  | nil => exact parts?_closing rest
  | cons part parts ih =>
    have hparts := ih (fun e he => hnamed e (List.mem_cons_of_mem _ he))
      fun e he => hreads e (List.mem_cons_of_mem _ he)
    cases part with
    | text s =>
      rw [templateParts, String.toList_append, List.append_assoc, parts?_templateText, hparts]
      rfl
    | fill e =>
      obtain ⟨later, hlater⟩ : ∃ later, later
          = '\x7d' :: ((templateParts .backquoted level parts).toList ++ '\x60' :: rest) := ⟨_, rfl⟩
      have hsplit : (templateParts .backquoted level (.fill e :: parts)).toList ++ '\x60' :: rest
          = '$' :: '\x7b' :: ([] ++ chars level e ++ later) := by
        rw [templateParts, hlater]
        simp [chars]
      have hahead : Ahead ends later := by
        rw [hlater]
        exact ahead_gap isGap_nil (by decide) (by decide) _
      have hclosing : mark? '\x7d' later
          = some ((templateParts .backquoted level parts).toList ++ '\x60' :: rest) := by
        rw [hlater]
        exact mark?_gap isGap_nil (by decide) _
      have hpos := (begins_chars level (hnamed e List.mem_cons_self)).length_pos
      -- Reading goes on only if something was read, and every expression has a first character.
      have hshorter : later.length < ([] ++ chars level e ++ later).length := by
        simp only [List.nil_append, List.length_append]
        omega
      have hread := (hreads e List.mem_cons_self).whole isGap_nil hahead
      rw [hsplit, parts?_fill hread hshorter hclosing, hparts]
      rfl

theorem readAsTerm_template {level : Nat} {parts : List TemplatePiece}
    (hnamed : ∀ e, .fill e ∈ parts → e.IsNamed) (hreads : ∀ e, .fill e ∈ parts → Reads level e) :
    ReadAsTerm level (.template parts) := by
  intro gap rest hgap _
  have hchar : char? (gap ++ chars level (.template parts) ++ rest)
      = some ('\x60', (templateParts .backquoted level parts).toList ++ '\x60' :: rest) := by
    have hsplit : gap ++ chars level (.template parts) ++ rest
        = gap ++ '\x60' :: ((templateParts .backquoted level parts).toList ++ '\x60' :: rest) := by
      rw [chars_template]
      simp
    rw [hsplit]
    exact char?_gap hgap (by decide) _
  exact term?_template hchar (parts?_templateParts hnamed hreads rest)

/-! ## Sums -/

/-- The right side of a sum: another sum is read back from its parentheses. -/
theorem right?_chars {level : Nat} {e : Expr} (hnamed : e.IsNamed) (h : Reads level e)
    {rest : List Char} (hrest : Ahead pauses rest) :
    right? ([' '] ++ (if isSum .backquoted e then '(' :: (chars level e ++ [')'])
        else chars level e) ++ rest)
      = some (e.merged, rest) := by
  cases hsum : isSum .backquoted e with
  | false =>
    rw [if_neg (by decide)]
    -- No term begins with a parenthesis, so none is taken for a sum.
    have hopening : mark? '(' ([' '] ++ chars level e ++ rest) = none := by
      obtain ⟨c, cs, hcs, hblank, hc⟩ := begins_chars level hnamed
      rw [hcs, List.append_assoc, List.cons_append]
      exact mark?_gap_of_ne isGap_space hblank (fun h => hc (by simp [h])) _
    rw [right?_of_none hopening]
    exact h.term hsum [' '] rest isGap_space hrest
  | true =>
    rw [if_pos rfl]
    obtain ⟨later, hlater⟩ : ∃ later, later = ')' :: rest := ⟨_, rfl⟩
    have hsplit : [' '] ++ '(' :: (chars level e ++ [')']) ++ rest
        = [' '] ++ '(' :: ([] ++ chars level e ++ later) := by
      rw [hlater]
      simp
    have hahead : Ahead ends later := by
      rw [hlater]
      exact ahead_gap isGap_nil (by decide) (by decide) rest
    have hclosing : mark? ')' later = some rest := by
      rw [hlater]
      exact mark?_gap isGap_nil (by decide) rest
    have hpos := (begins_chars level hnamed).length_pos
    have hshorter : later.length < ([] ++ chars level e ++ later).length := by
      simp only [List.nil_append, List.length_append]
      omega
    rw [hsplit]
    exact right?_parentheses (mark?_gap isGap_space (by decide) _) (h.whole isGap_nil hahead)
      hshorter hclosing

theorem reads_concat {level : Nat} {left right : Expr} (hnamed : right.IsNamed)
    (hleft : Reads level left) (hright : Reads level right) :
    Reads level (.concat left right) where
  term hsum := by cases hsum
  sum := by
    intro gap rest hgap hrest
    obtain ⟨behind, hbehind⟩ : ∃ behind, behind
        = [' '] ++ (if isSum .backquoted right then '(' :: (chars level right ++ [')'])
            else chars level right) ++ rest := ⟨_, rfl⟩
    have hsplit : gap ++ chars level (.concat left right) ++ rest
        = gap ++ chars level left ++ ([' '] ++ '+' :: behind) := by
      rw [chars_concat, hbehind]
      simp
    have hahead : Ahead pauses ([' '] ++ '+' :: behind) :=
      ahead_gap isGap_space (by decide) (by decide) behind
    have hshorter : rest.length < behind.length := by
      rw [hbehind]
      simp only [List.length_append, List.length_singleton]
      omega
    have hread : right? behind = some (right.merged, rest) := by
      rw [hbehind]
      exact right?_chars hnamed hright hrest
    -- The left side is read up to the plus sign and becomes the left side of the sum.
    rw [hsplit, hleft.sum gap _ hgap hahead,
      further?_plus (mark?_gap isGap_space (by decide) behind) hread hshorter]
    rfl

/-! ## Expressions -/

/-- Every expression is read back, as far as it goes. -/
theorem reads_of_isNamed (e : Expr) : ∀ level, e.IsNamed → Reads level e := by
  -- For all levels at once, because the members of an object are one level further in.
  induction e using Expr.induct with
  | ident name =>
    intro level h
    exact reads_of_term h (readAsTerm_ident level (Expr.isNamed_ident.mp h))
  | text value =>
    intro level h
    exact reads_of_term h (readAsTerm_text level value)
  | template parts ih =>
    intro level h
    have hnamed := Expr.isNamed_template.mp h
    exact reads_of_term h (readAsTerm_template hnamed fun e he => ih e he level (hnamed e he))
  | concat left right hleft hright =>
    intro level h
    obtain ⟨hl, hr⟩ := Expr.isNamed_concat.mp h
    exact reads_concat hr (hleft level hl) (hright level hr)
  | call callee es ih =>
    intro level h
    obtain ⟨hcallee, hnamed⟩ := Expr.isNamed_call.mp h
    exact reads_of_term h (readAsTerm_call hcallee hnamed fun e he => ih e he level (hnamed e he))
  | construct callee es ih =>
    intro level h
    obtain ⟨hcallee, hnamed⟩ := Expr.isNamed_construct.mp h
    exact reads_of_term h
      (readAsTerm_construct hcallee hnamed fun e he => ih e he level (hnamed e he))
  | object members ih =>
    intro level h
    have hnamed := Expr.isNamed_object.mp h
    exact reads_of_term h (readAsTerm_object fun m hm => ih m hm (level + 1) (hnamed m hm))

/-- **Reading a written expression** gives the expression with the texts of its templates merged,
    and nothing is left. -/
theorem expr?_expr {e : Expr} (h : e.IsNamed) (level : Nat) :
    expr? (expr .backquoted level e).toList = some (e.merged, []) := by
  have hend : Ahead ends [] := fun c hc => nomatch hc
  have hread := (reads_of_isNamed e level h).whole isGap_nil hend
  rwa [List.nil_append, List.append_nil] at hread

/-- **Written expressions are unambiguous**: two of them have the same text exactly if they are the
    same but for the texts of their templates, which may be cut in different ways. -/
theorem expr_eq_iff {a b : Expr} (ha : a.IsNamed) (hb : b.IsNamed) (level : Nat) :
    expr .backquoted level a = expr .backquoted level b ↔ a.merged = b.merged := by
  constructor
  · intro h
    have hread := expr?_expr ha level
    rw [h, expr?_expr hb level] at hread
    exact (congrArg Prod.fst (Option.some.inj hread)).symm
  · intro h
    rw [← Expr.expr_merged a, ← Expr.expr_merged b, h]

/-- A sum with everything that could be taken for something else: names that are words of the
    language, and texts that look like the ends of literals. The texts are those of a template. -/
def misleading (texts : List TemplatePiece) : Expr :=
  .concat (.ident "new")
    (.concat (.template (texts ++ [.fill (.object [("new", .text "'"), ("a: b", .text "\\'")])]))
      (.construct "new" [.call "new" [], .text "', '"]))

theorem expr_eq_iff_misleading :
    (misleading [.text "\x60", .text "", .text "$\x7ba\x7d"]).IsNamed
      ∧ (misleading [.text "\x60$\x7ba\x7d"]).IsNamed
      ∧ (expr .backquoted 1 (misleading [.text "\x60", .text "", .text "$\x7ba\x7d"])
          = expr .backquoted 1 (misleading [.text "\x60$\x7ba\x7d"])
        ↔ (misleading [.text "\x60", .text "", .text "$\x7ba\x7d"]).merged
          = (misleading [.text "\x60$\x7ba\x7d"]).merged) :=
  ⟨by decide, by decide, expr_eq_iff (by decide) (by decide) 1⟩

end ClientGen.Layout
