import ClientGen.Proofs.Reading.Lexeme

/-! # Joined texts as they are read

  Two ways in which the generated language writes a text with values in it, and how each is read
  when every name has a text for its value.

  * **A template** stands between backquotes and may go over several lines. Its escapes are those of
    quoted literals, every way to end a line with a carriage return counts as a line feed, and
    a dollar sign before a brace opens a name that is filled in.
  * **A sum** joins its operands, which are quoted literals and names. It is read by the rules of
    old interpreters: none of the four characters that end a line may stand in a quoted literal. -/

namespace ClientGen.Reading

variable (value : String → String)

/-! ## Templates -/

/-- The value of a name that is filled in, and what follows the brace behind the name. -/
def filled? (cs : List Char) : Option (List Char × List Char) :=
  match name? cs with
  | none => none
  | some (name, later) =>
    if later.head? = some '\x7d' then some ((value name).toList, later.tail) else none

def templateUnit? (c : Char) (rest : List Char) : Option (List Char × List Char) :=
  if c = '\\' then escape? rest
  else if c = '$' ∧ rest.head? = some '\x7b' then filled? value rest.tail
  else if c = '\r' then some (['\n'], dropLineFeed rest)
  else some ([c], rest)

theorem length_of_filled? {cs text later : List Char}
    (h : filled? value cs = some (text, later)) : later.length ≤ cs.length := by
  unfold filled? at h
  split at h
  · cases h
  · next name behind hname =>
    split at h
    · obtain ⟨_, rfl⟩ := Prod.mk.inj (Option.some.inj h)
      have hlength := length_of_name? hname
      rw [List.length_tail]
      omega
    · cases h

def templateForm : LiteralForm where
  closing := '\x60'
  unit? := templateUnit? value
  length_of_unit? := by
    intro c rest text later h
    unfold templateUnit? at h
    split at h
    · exact length_of_escape? h
    split at h
    · have hlength := length_of_filled? value h
      rw [List.length_tail] at hlength
      omega
    split at h
    · obtain ⟨_, rfl⟩ := Prod.mk.inj (Option.some.inj h)
      exact length_dropLineFeed_le rest
    · obtain ⟨_, rfl⟩ := Prod.mk.inj (Option.some.inj h)
      exact Nat.le_refl _

/-- A template goes on behind each of its units. -/
theorem templateForm_unit {c : Char} {rest text later : List Char} (hc : c ≠ '\x60')
    (h : templateUnit? value c rest = some (text, later)) :
    (templateForm value).body? (c :: rest)
      = ((templateForm value).body? later).map fun read => (text ++ read.1, read.2) :=
  LiteralForm.body?_of_unit? (templateForm value) hc h

/-- The text of a source that is one template. -/
def template? (source : String) : Option String :=
  match source.toList with
  | [] => none
  | c :: rest =>
    if c = '\x60' then
      ((templateForm value).body? rest).bind fun read =>
        if read.2.isEmpty then some (String.ofList read.1) else none
    else none

/-! ## Sums -/

def isBlank (c : Char) : Bool := c = ' ' || c = '\t' || isLineEnd c

def skipBlanks (cs : List Char) : List Char := cs.dropWhile isBlank

def operand? : List Char → Option (List Char × List Char)
  | [] => none
  | c :: rest =>
    if c = '\x27' then (quotedForm isLineEnd).body? rest
    else (name? (c :: rest)).map fun read => ((value read.1).toList, read.2)

theorem length_skipBlanks_le (cs : List Char) : (skipBlanks cs).length ≤ cs.length :=
  (List.dropWhile_suffix _).length_le

theorem length_of_operand? {cs text later : List Char}
    (h : operand? value cs = some (text, later)) : later.length ≤ cs.length := by
  cases cs with
  | nil => cases h
  | cons c rest =>
    simp only [operand?] at h
    -- An operand is a literal between quotes or a name.
    split at h
    · exact Nat.le_succ_of_le ((quotedForm isLineEnd).length_of_body? h)
    · simp only [Option.map_eq_some_iff, Prod.exists, Prod.mk.injEq] at h
      obtain ⟨name, left, hname, _, rfl⟩ := h
      exact length_of_name? hname

/-- A name in the place of an operand stands for its value. -/
theorem operand?_name {cs later : List Char} {name : String}
    (h : name? cs = some (name, later)) :
    operand? value (skipBlanks cs) = some ((value name).toList, later) := by
  have hfirst : ∃ c rest, cs = c :: rest ∧ Text.isIdentifierPart c = true := by
    cases cs with
    | nil => cases h
    | cons c rest =>
      cases hc : Text.isIdentifierPart c with
      | true => exact ⟨c, rest, rfl, hc⟩
      | false =>
        -- Nothing would be taken, and nothing is no name.
        simp [name?, hc, Text.isBindable, Text.isIdentifier] at h
  obtain ⟨c, rest, rfl, hc⟩ := hfirst
  have hblank : isBlank c = false := by
    cases hblank : isBlank c with
    | false => rfl
    | true =>
      simp only [isBlank, isLineEnd, Bool.or_eq_true, decide_eq_true_eq] at hblank
      rcases hblank with (rfl | rfl) | (((rfl | rfl) | rfl) | rfl) <;> revert hc <;> decide
  have hquote : c ≠ '\x27' := by
    rintro rfl
    revert hc
    decide
  have hskip : skipBlanks (c :: rest) = c :: rest := List.dropWhile_cons_of_neg (by simp [hblank])
  rw [hskip, operand?, if_neg hquote, h]
  rfl

/-- The joined text of operands that each stand behind a plus sign. -/
def operands? (cs : List Char) : Option (List Char) :=
  match _h : skipBlanks cs with
  | [] => some []
  | c :: rest =>
    if c = '+' then
      match _h' : operand? value (skipBlanks rest) with
      | none => none
      | some (text, later) => (operands? later).map (text ++ ·)
    else none
termination_by cs.length
decreasing_by
  have hcs := length_skipBlanks_le cs
  have hrest := length_skipBlanks_le rest
  have hlater := length_of_operand? value ‹_›
  simp only [*, List.length_cons] at hcs
  omega

theorem operands?_end {cs : List Char} (h : skipBlanks cs = []) :
    operands? value cs = some [] := by
  rw [operands?]
  split
  · rfl
  · next hcons =>
    rw [h] at hcons
    cases hcons

/-- Behind a plus sign stands one operand, and then the others. -/
theorem operands?_plus {cs rest later text : List Char} (hplus : skipBlanks cs = '+' :: rest)
    (h : operand? value (skipBlanks rest) = some (text, later)) :
    operands? value cs = (operands? value later).map (text ++ ·) := by
  rw [operands?]
  -- The definition asks what comes first behind blanks and then what operand follows. Both are
  -- known.
  split
  · next hnil =>
    rw [hplus] at hnil
    cases hnil
  · next hcons =>
    rw [hplus] at hcons
    obtain ⟨rfl, rfl⟩ := List.cons.inj hcons
    rw [if_pos rfl]
    split
    · next hnone =>
      rw [h] at hnone
      cases hnone
    · next hsome =>
      rw [h] at hsome
      obtain ⟨rfl, rfl⟩ := Prod.mk.inj (Option.some.inj hsome)
      rfl

theorem operands?_plus_eq_none {cs rest : List Char} (hplus : skipBlanks cs = '+' :: rest)
    (h : operand? value (skipBlanks rest) = none) : operands? value cs = none := by
  rw [operands?]
  split
  · next hnil =>
    rw [hplus] at hnil
    cases hnil
  · next hcons =>
    rw [hplus] at hcons
    obtain ⟨rfl, rfl⟩ := List.cons.inj hcons
    rw [if_pos rfl]
    split
    · rfl
    · next hsome =>
      rw [h] at hsome
      cases hsome

/-- The text of a source that is one sum. It is read as if a plus sign stood before its first
    operand too. -/
def sum? (source : String) : Option String :=
  (operands? value ('+' :: source.toList)).map String.ofList

end ClientGen.Reading
