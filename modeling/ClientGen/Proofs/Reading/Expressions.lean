import ClientGen.Proofs.Reading.Listing
import ClientGen.Proofs.Script.Merging

/-! # Expressions as they are read

  A reader of expressions, with the templates of the generated language. It does not know how the
  sources are laid out: blanks may stand anywhere between the parts.

  * **A term** is a literal, a template, an object, a name, or a call. Its first character says
    which.
  * **An expression** is a term and further terms behind plus signs. The plus sign binds to the
    left; what is meant to bind to the right stands in parentheses.

  Characters of templates are put together as they are read, so that texts never stand side by
  side. -/

namespace ClientGen.Reading

open ClientGen.Expr (joinText)

mutual

def expr? (cs : List Char) : Option (Expr × List Char) :=
  onward cs (term? cs) fun later _ first => further? first later
termination_by 2 * cs.length + 1

/-- An expression that begins with what was read before: the terms behind plus signs are added. -/
def further? (left : Expr) (cs : List Char) : Option (Expr × List Char) :=
  behind '+' cs (some (left, cs)) fun rest _ =>
    onward rest (right? rest) fun later _ right => further? (.concat left right) later
termination_by 2 * cs.length + 1

/-- What stands on the right of a plus sign: a term, or an expression in parentheses. -/
def right? (cs : List Char) : Option (Expr × List Char) :=
  behind '(' cs (term? cs) fun inside _ =>
    onward inside (expr? inside) fun later _ e => (mark? ')' later).map fun rest => (e, rest)
termination_by 2 * cs.length + 1

def term? (cs : List Char) : Option (Expr × List Char) :=
  onward cs (char? cs) fun rest _ c =>
    if c = '\x27' then
      ((quotedForm fun _ => false).body? rest).map fun read =>
        (.text (String.ofList read.1), read.2)
    else if c = '\x60' then (parts? rest).map fun read => (.template read.1, read.2)
    else if c = '\x7b' then
      (listed? '\x7d' (fun cs _ => member? cs) rest (Nat.le_refl _)).map fun read =>
        (.object read.1, read.2)
    else
      onward cs (word? cs) fun later _ word =>
        -- This word is a name like any other unless the name of a class follows it.
        if word = "new" ∧ (word? later).isSome then
          onward later (word? later) fun later _ callee =>
            (arguments? later).map fun read => (.construct callee read.1, read.2)
        else if (mark? '(' later).isSome then
          (arguments? later).map fun read => (.call word read.1, read.2)
        else some (.ident word, later)
termination_by 2 * cs.length

def arguments? (cs : List Char) : Option (List Expr × List Char) :=
  behind '(' cs none fun inside _ =>
    listed? ')' (fun cs _ => expr? cs) inside (Nat.le_refl _)
termination_by 2 * cs.length

def member? (cs : List Char) : Option ((String × Expr) × List Char) :=
  onward cs (key? cs) fun later _ key =>
    behind ':' later none fun rest _ => (expr? rest).map fun read => ((key, read.1), read.2)
termination_by 2 * cs.length

/-- The parts of a template up to the backquote that closes it. -/
def parts? (cs : List Char) : Option (List TemplatePiece × List Char) :=
  match cs with
  | [] => none
  | c :: rest =>
    if c = '\x60' then some ([], rest)
    else if c = '\\' then
      -- The character behind a backslash stands for itself.
      match rest with
      | [] => none
      | d :: rest => (parts? rest).map fun read => (joinText (String.ofList [d]) read.1, read.2)
    else if c = '$' ∧ rest.head? = some '\x7b' then
      onward rest.tail (expr? rest.tail) fun later _ e =>
        behind '\x7d' later none fun rest _ =>
          (parts? rest).map fun read => (.fill e :: read.1, read.2)
    else (parts? rest).map fun read => (joinText (String.ofList [c]) read.1, read.2)
termination_by 2 * cs.length
decreasing_by
  · simp only [List.length_cons]
    omega
  · simp only [List.length_cons, List.length_tail]
    omega
  · have hlater := ‹later.length < _›
    simp only [List.length_tail] at hlater
    simp only [List.length_cons]
    omega
  · simp only [List.length_cons]
    omega

end

/-! ## Steps of expressions -/

theorem expr?_of_term? {cs later : List Char} {e : Expr} (hread : term? cs = some (e, later))
    (hlater : later.length < cs.length) : expr? cs = further? e later := by
  rw [expr?, onward_eq hread hlater]

theorem further?_of_none {cs : List Char} (hplus : mark? '+' cs = none) (left : Expr) :
    further? left cs = some (left, cs) := by
  rw [further?, behind_of_none hplus]

theorem further?_plus {cs rest later : List Char} {right : Expr} (hplus : mark? '+' cs = some rest)
    (hread : right? rest = some (right, later)) (hlater : later.length < rest.length)
    (left : Expr) : further? left cs = further? (.concat left right) later := by
  rw [further?, behind_of_some hplus, onward_eq hread hlater]

theorem right?_of_none {cs : List Char} (hopening : mark? '(' cs = none) :
    right? cs = term? cs := by
  rw [right?, behind_of_none hopening]

theorem right?_parentheses {cs inside later rest : List Char} {e : Expr}
    (hopening : mark? '(' cs = some inside) (hread : expr? inside = some (e, later))
    (hlater : later.length < inside.length) (hclosing : mark? ')' later = some rest) :
    right? cs = some (e, rest) := by
  rw [right?, behind_of_some hopening, onward_eq hread hlater, hclosing]
  rfl

/-! ## Steps of terms -/

section

variable {cs rest : List Char}

theorem term?_text {s later : List Char} (hchar : char? cs = some ('\x27', rest))
    (hread : (quotedForm fun _ => false).body? rest = some (s, later)) :
    term? cs = some (.text (String.ofList s), later) := by
  rw [term?, onward_eq hchar (length_of_char? hchar), if_pos rfl, hread]
  rfl

theorem term?_template {parts : List TemplatePiece} {later : List Char}
    (hchar : char? cs = some ('\x60', rest)) (hread : parts? rest = some (parts, later)) :
    term? cs = some (.template parts, later) := by
  rw [term?, onward_eq hchar (length_of_char? hchar), if_neg (by decide), if_pos rfl, hread]
  rfl

theorem term?_object {members : List (String × Expr)} {later : List Char}
    (hchar : char? cs = some ('\x7b', rest))
    (hread : listed? '\x7d' (fun cs _ => member? cs) rest (Nat.le_refl _)
      = some (members, later)) :
    term? cs = some (.object members, later) := by
  rw [term?, onward_eq hchar (length_of_char? hchar), if_neg (by decide), if_neg (by decide),
    if_pos rfl, hread]
  rfl

/-- A term that begins with a name. -/
theorem term?_word {gap : List Char} {word : String} {later : List Char} (hgap : IsGap gap)
    (hword : Text.isIdentifier word = true)
    (hlater : ∀ c ∈ later.head?, Text.isIdentifierPart c = false) :
    term? (gap ++ word.toList ++ later)
      = if word = "new" ∧ (word? later).isSome then
          onward later (word? later) fun later _ callee =>
            (arguments? later).map fun read => (.construct callee read.1, read.2)
        else if (mark? '(' later).isSome then
          (arguments? later).map fun read => (.call word read.1, read.2)
        else some (.ident word, later) := by
  obtain ⟨c, cs, hcs, _, hparts⟩ := isIdentifier_cons hword
  have hc := hparts c List.mem_cons_self
  -- No mark that another kind of term begins with is part of an identifier.
  have hne : ∀ d, Text.isIdentifierPart d = false → c ≠ d := by
    rintro d hd rfl
    rw [hc] at hd
    cases hd
  have hchar : char? (gap ++ word.toList ++ later) = some (c, cs ++ later) := by
    rw [hcs, List.append_assoc]
    exact char?_gap hgap (isBlank_of_isIdentifierPart hc) _
  have hshorter : later.length < (gap ++ word.toList ++ later).length := by
    simp only [hcs, List.length_append, List.length_cons]
    omega
  rw [term?, onward_eq hchar (length_of_char? hchar), if_neg (hne _ (by decide)),
    if_neg (hne _ (by decide)), if_neg (hne _ (by decide)),
    onward_eq (word?_gap hgap hword hlater) hshorter]

theorem arguments?_eq {inside : List Char} (hopening : mark? '(' cs = some inside) :
    arguments? cs = listed? ')' (fun cs _ => expr? cs) inside (Nat.le_refl _) := by
  rw [arguments?, behind_of_some hopening]

theorem member?_eq {key : String} {later rest : List Char} (hkey : key? cs = some (key, later))
    (hlater : later.length < cs.length) (hcolon : mark? ':' later = some rest) :
    member? cs = (expr? rest).map fun read => ((key, read.1), read.2) := by
  rw [member?, onward_eq hkey hlater, behind_of_some hcolon]

end

/-! ## Steps of templates -/

theorem parts?_closing (rest : List Char) : parts? ('\x60' :: rest) = some ([], rest) := by
  rw [parts?.eq_def]
  exact if_pos rfl

theorem parts?_fill {cs later rest : List Char} {e : Expr} (hread : expr? cs = some (e, later))
    (hlater : later.length < cs.length) (hclosing : mark? '\x7d' later = some rest) :
    parts? ('$' :: '\x7b' :: cs) = (parts? rest).map fun read => (.fill e :: read.1, read.2) := by
  have hread' : expr? ('\x7b' :: cs).tail = some (e, later) := hread
  have hlater' : later.length < ('\x7b' :: cs).tail.length := hlater
  rw [parts?.eq_def]
  dsimp only
  rw [if_neg (by decide), if_neg (by decide), if_pos ⟨rfl, rfl⟩, onward_eq hread' hlater',
    behind_of_some hclosing]

/-- A written character of a template stands for itself. -/
theorem parts?_templateChar (c : Char) (rest : List Char) :
    parts? (Layout.templateChar c ++ rest)
      = (parts? rest).map fun read => (joinText (String.ofList [c]) read.1, read.2) := by
  by_cases hmark : c = '\\' ∨ c = '\x60' ∨ c = '$'
  · have hwritten : Layout.templateChar c = ['\\', c] := by
      rcases hmark with rfl | rfl | rfl <;> rfl
    rw [hwritten, List.cons_append, List.cons_append, List.nil_append, parts?.eq_def]
    dsimp only
    rw [if_neg (by decide), if_pos rfl]
  · rw [not_or, not_or] at hmark
    obtain ⟨hslash, hquote, hdollar⟩ := hmark
    have hwritten : Layout.templateChar c = [c] := by
      simp [Layout.templateChar, hslash, hquote, hdollar]
    -- A dollar sign would have been escaped, so nothing is filled in here.
    have hopening : ¬ (c = '$' ∧ rest.head? = some '\x7b') := fun h => hdollar h.1
    rw [hwritten, List.cons_append, List.nil_append, parts?.eq_def]
    dsimp only
    rw [if_neg hquote, if_neg hslash, if_neg hopening]

theorem parts?_templateText (s : String) (rest : List Char) :
    parts? ((Layout.templateText s).toList ++ rest)
      = (parts? rest).map fun read => (joinText s read.1, read.2) := by
  have hchars : ∀ cs : List Char, parts? (cs.flatMap Layout.templateChar ++ rest)
      = (parts? rest).map fun read => (joinText (String.ofList cs) read.1, read.2) := by
    intro cs
    -- Character by character, each joined to what the later ones give.
    induction cs with
    | nil => simp [Expr.joinText_empty]
    | cons c cs ih =>
      have hcons : String.ofList (c :: cs) = String.ofList [c] ++ String.ofList cs := by
        rw [← String.ofList_append, List.singleton_append]
      rw [List.flatMap_cons, List.append_assoc, parts?_templateChar, ih, Option.map_map, hcons]
      simp only [Expr.joinText_append]
      rfl
  rw [Layout.templateText, String.toList_ofList, hchars, String.ofList_toList]

end ClientGen.Reading
