import ClientGen.Layout.Text
import ClientGen.Text.Hexadecimal

/-! # Lexemes as they are read

  How the generated language reads the smallest parts of its sources: names, and literals between
  two marks. What is read comes back as text, together with the characters that follow it.

  * **A literal** is a run of units up to the closing mark. Kinds of literals differ in the mark and
    in what a unit is (`LiteralForm`).
  * **An escape** is a backslash and what belongs to it. Escapes mean the same in every literal.
  * **A quoted literal** stands on one line (`quotedForm`).

  `quotedForm_quote` shows that a text between single quotes reads back as itself, wherever it
  stands, if none of its characters that are written as they are ends a line. -/

namespace ClientGen.Reading

/-! ## Characters -/

def isLineEnd (c : Char) : Bool := c = '\n' || c = '\r' || c = '\u2028' || c = '\u2029'

/-- What is left behind a carriage return: a line feed that follows belongs to it. -/
def dropLineFeed : List Char → List Char
  | [] => []
  | c :: rest => if c = '\n' then rest else c :: rest

theorem length_dropLineFeed_le (cs : List Char) : (dropLineFeed cs).length ≤ cs.length := by
  cases cs with
  | nil => exact Nat.le_refl _
  | cons c rest =>
    simp only [dropLineFeed]
    split <;> simp

theorem dropLineFeed_cons_of_ne {c : Char} (h : c ≠ '\n') (rest : List Char) :
    dropLineFeed (c :: rest) = c :: rest :=
  if_neg h

/-! ## Escapes -/

/-- The control characters that letters stand for behind a backslash. -/
def controlOf? (letter : Char) : Option Char :=
  if letter = 'n' then some '\n'
  else if letter = 'r' then some '\r'
  else if letter = 't' then some '\t'
  else if letter = 'b' then some '\x08'
  else if letter = 'f' then some '\x0c'
  else if letter = 'v' then some '\x0b'
  else none

/-- The character whose code is written in so many hexadecimal digits, and what follows them. Half a
    surrogate pair is no character, and codes between braces are not read. -/
def coded? (digits : Nat) (cs : List Char) : Option (List Char × List Char) := do
  let code ← Text.hexNumber? (cs.take digits)
  if digits ≤ cs.length ∧ code.isValidChar then
    return ([Char.ofNat code], cs.drop digits)
  else none

/-- What the characters behind a backslash stand for, and what follows them. A line end stands for
    nothing there, and of the digits only a zero without a digit behind it has a meaning. -/
def escape? : List Char → Option (List Char × List Char)
  | [] => none
  | c :: rest =>
    if c = 'x' then coded? 2 rest
    else if c = 'u' then coded? 4 rest
    else if c.isDigit then
      if c = '0' ∧ !(rest.head?.any Char.isDigit) then some (['\x00'], rest) else none
    else if c = '\r' then some ([], dropLineFeed rest)
    else if isLineEnd c then some ([], rest)
    else some ([(controlOf? c).getD c], rest)

theorem length_of_coded? {digits : Nat} {cs later text : List Char}
    (h : coded? digits cs = some (text, later)) : later.length ≤ cs.length := by
  unfold coded? at h
  obtain ⟨code, _, hcode⟩ := Option.bind_eq_some_iff.mp h
  split at hcode
  · obtain ⟨_, rfl⟩ := Prod.mk.inj (Option.some.inj hcode)
    simp
  · cases hcode

theorem length_of_escape? {cs later text : List Char} (h : escape? cs = some (text, later)) :
    later.length ≤ cs.length := by
  cases cs with
  | nil => cases h
  | cons c rest =>
    -- Each kind of escape leaves at most what follows its first character.
    have hrest : later.length ≤ rest.length := by
      simp only [escape?] at h
      split at h
      · exact length_of_coded? h
      split at h
      · exact length_of_coded? h
      split at h
      · split at h
        · obtain ⟨_, rfl⟩ := Prod.mk.inj (Option.some.inj h)
          exact Nat.le_refl _
        · cases h
      split at h
      · obtain ⟨_, rfl⟩ := Prod.mk.inj (Option.some.inj h)
        exact length_dropLineFeed_le rest
      split at h
      · obtain ⟨_, rfl⟩ := Prod.mk.inj (Option.some.inj h)
        exact Nat.le_refl _
      · obtain ⟨_, rfl⟩ := Prod.mk.inj (Option.some.inj h)
        exact Nat.le_refl _
    exact Nat.le_succ_of_le hrest

/-! ## Literals -/

structure LiteralForm where
  /-- The mark that closes a literal. -/
  closing : Char
  /-- What a unit stands for that begins with a character, and what follows the unit. -/
  unit? : Char → List Char → Option (List Char × List Char)
  /-- A unit goes on with what is there. -/
  length_of_unit? : ∀ {c rest text later},
    unit? c rest = some (text, later) → later.length ≤ rest.length

namespace LiteralForm

/-- The text of a literal up to its closing mark, and what follows the mark. -/
def body? (form : LiteralForm) : List Char → Option (List Char × List Char)
  | [] => none
  | c :: rest =>
    if c = form.closing then some ([], rest)
    else
      match _h : form.unit? c rest with
      | none => none
      | some (text, later) => (form.body? later).map fun read => (text ++ read.1, read.2)
termination_by cs => cs.length
decreasing_by
  exact Nat.lt_succ_of_le (form.length_of_unit? ‹_›)

theorem body?_closing (form : LiteralForm) (rest : List Char) :
    form.body? (form.closing :: rest) = some ([], rest) := by
  rw [body?, if_pos rfl]

theorem body?_of_unit? (form : LiteralForm) {c : Char} {rest text later : List Char}
    (hc : c ≠ form.closing) (h : form.unit? c rest = some (text, later)) :
    form.body? (c :: rest) = (form.body? later).map fun read => (text ++ read.1, read.2) := by
  rw [body?, if_neg hc]
  split
  · next hnone => rw [h] at hnone; cases hnone
  · next hsome =>
    rw [h] at hsome
    obtain ⟨rfl, rfl⟩ := Prod.mk.inj (Option.some.inj hsome)
    rfl

theorem body?_of_unit?_eq_none (form : LiteralForm) {c : Char} {rest : List Char}
    (hc : c ≠ form.closing) (h : form.unit? c rest = none) : form.body? (c :: rest) = none := by
  rw [body?, if_neg hc]
  split
  · rfl
  · next hsome => rw [h] at hsome; cases hsome

theorem length_of_body? (form : LiteralForm) {cs text later : List Char}
    (h : form.body? cs = some (text, later)) : later.length ≤ cs.length := by
  fun_induction form.body? cs generalizing text with
  | case1 => cases h
  | case2 rest =>
    obtain ⟨_, rfl⟩ := Prod.mk.inj (Option.some.inj h)
    exact Nat.le_succ _
  | case3 => cases h
  | case4 c rest _ unit behind hunit ih =>
    simp only [Option.map_eq_some_iff, Prod.exists, Prod.mk.injEq] at h
    obtain ⟨read, left, hbehind, _, rfl⟩ := h
    -- The unit in front is not longer than what was there, and the rest goes on behind it.
    have hlength := form.length_of_unit? hunit
    have hleft := ih hbehind
    simp only [List.length_cons]
    omega

end LiteralForm

/-! ## Quoted literals -/

/-- A unit of a quoted literal in which the characters of `breaks` cannot stand as they are. -/
def quotedUnit? (breaks : Char → Bool) (c : Char) (rest : List Char) :
    Option (List Char × List Char) :=
  if c = '\\' then escape? rest
  else if breaks c then none
  else some ([c], rest)

/-- Literals between single quotes, in which the characters of `breaks` cannot stand as they are. -/
def quotedForm (breaks : Char → Bool) : LiteralForm where
  closing := '\x27'
  unit? := quotedUnit? breaks
  length_of_unit? := by
    intro c rest text later h
    unfold quotedUnit? at h
    split at h
    · exact length_of_escape? h
    split at h
    · cases h
    · obtain ⟨_, rfl⟩ := Prod.mk.inj (Option.some.inj h)
      exact Nat.le_refl _

section

variable {breaks : Char → Bool}

/-- A quoted literal goes on behind each of its units. -/
theorem quotedForm_unit {c : Char} {rest text later : List Char} (hc : c ≠ '\x27')
    (h : quotedUnit? breaks c rest = some (text, later)) :
    (quotedForm breaks).body? (c :: rest)
      = ((quotedForm breaks).body? later).map fun read => (text ++ read.1, read.2) :=
  LiteralForm.body?_of_unit? (quotedForm breaks) hc h

/-- A quoted text is its written characters between two quotes. -/
theorem toList_quote (s : String) :
    (Layout.quote s).toList = '\x27' :: (s.toList.flatMap Layout.quoteChar ++ ['\x27']) := by
  simp [Layout.quote]

theorem toList_quote_append (s : String) (rest : List Char) :
    (Layout.quote s).toList ++ rest
      = '\x27' :: (s.toList.flatMap Layout.quoteChar ++ '\x27' :: rest) := by
  rw [toList_quote, List.cons_append, List.append_assoc, List.singleton_append]

/-- The characters that quoting writes as they are. -/
theorem quoteChar_eq_self_iff {c : Char} :
    Layout.quoteChar c = [c]
      ↔ c ≠ '\\' ∧ c ≠ '\x27' ∧ c ≠ '\n' ∧ c ≠ '\r' ∧ c ≠ '\t' := by
  unfold Layout.quoteChar
  -- One case for each character that has an escape.
  split
  · simp_all
  split
  · simp_all
  split
  · simp_all
  split
  · simp_all
  split <;> simp_all

/-- A quoted character is one unit that stands for the character, unless it is written as it is and
    breaks the literal. -/
theorem body?_quoteChar {c : Char} (h : Layout.quoteChar c = [c] → breaks c = false)
    (rest : List Char) :
    (quotedForm breaks).body? (Layout.quoteChar c ++ rest)
      = ((quotedForm breaks).body? rest).map fun read => (c :: read.1, read.2) := by
  by_cases hself : Layout.quoteChar c = [c]
  · obtain ⟨hslash, hquote, _⟩ := quoteChar_eq_self_iff.mp hself
    have hunit : quotedUnit? breaks c rest = some ([c], rest) := by
      rw [quotedUnit?, if_neg hslash, h hself]
      rfl
    rw [hself]
    exact quotedForm_unit hquote hunit
  · -- A character that is not written as it is has an escape of its own.
    have hescape : ∃ letter, Layout.quoteChar c = ['\\', letter]
        ∧ escape? (letter :: rest) = some ([c], rest) := by
      rw [quoteChar_eq_self_iff] at hself
      by_cases hslash : c = '\\'
      · exact ⟨'\\', by simp [Layout.quoteChar, hslash], by subst hslash; rfl⟩
      by_cases hquote : c = '\x27'
      · exact ⟨'\x27', by subst hquote; rfl, by subst hquote; rfl⟩
      by_cases hfeed : c = '\n'
      · exact ⟨'n', by subst hfeed; rfl, by subst hfeed; rfl⟩
      by_cases hreturn : c = '\r'
      · exact ⟨'r', by subst hreturn; rfl, by subst hreturn; rfl⟩
      by_cases htab : c = '\t'
      · exact ⟨'t', by subst htab; rfl, by subst htab; rfl⟩
      exact absurd ⟨hslash, hquote, hfeed, hreturn, htab⟩ hself
    obtain ⟨letter, hwritten, hread⟩ := hescape
    have hunit : quotedUnit? breaks '\\' (letter :: rest) = some ([c], rest) := by
      rw [quotedUnit?, if_pos rfl, hread]
    rw [hwritten]
    exact quotedForm_unit (by decide) hunit

/-- **Reading a quoted text** gives the text, if none of its characters that are written as they are
    breaks the literal. -/
theorem quotedForm_quote {text : List Char}
    (h : ∀ c ∈ text, Layout.quoteChar c = [c] → breaks c = false) (rest : List Char) :
    (quotedForm breaks).body? (text.flatMap Layout.quoteChar ++ '\x27' :: rest)
      = some (text, rest) := by
  induction text with
  | nil => exact LiteralForm.body?_closing (quotedForm breaks) rest
  | cons c text ih =>
    rw [List.forall_mem_cons] at h
    rw [List.flatMap_cons, List.append_assoc, body?_quoteChar h.1, ih h.2]
    rfl

/-- A character that is written as it is and breaks the literal leaves it unread. -/
theorem quotedForm_quote_eq_none {text : List Char}
    (h : ∃ c ∈ text, Layout.quoteChar c = [c] ∧ breaks c = true) (rest : List Char) :
    (quotedForm breaks).body? (text.flatMap Layout.quoteChar ++ '\x27' :: rest) = none := by
  induction text with
  | nil =>
    obtain ⟨c, hc, _⟩ := h
    cases hc
  | cons c text ih =>
    rw [List.flatMap_cons, List.append_assoc]
    -- Either the first character breaks the literal, or a later one does.
    by_cases hc : Layout.quoteChar c = [c] ∧ breaks c = true
    · obtain ⟨hslash, hquote, _⟩ := quoteChar_eq_self_iff.mp hc.1
      rw [hc.1]
      apply LiteralForm.body?_of_unit?_eq_none (quotedForm breaks) hquote
      show quotedUnit? breaks c _ = none
      rw [quotedUnit?, if_neg hslash, if_pos hc.2]
    · -- The first character reads as itself, so the one that breaks comes later.
      have hlater : ∃ d ∈ text, Layout.quoteChar d = [d] ∧ breaks d = true := by
        obtain ⟨d, hd, hbreak⟩ := h
        rcases List.mem_cons.mp hd with rfl | hd
        · exact absurd hbreak hc
        · exact ⟨d, hd, hbreak⟩
      have hfirst : Layout.quoteChar c = [c] → breaks c = false := by
        intro hself
        cases hbreak : breaks c with
        | false => rfl
        | true => exact absurd ⟨hself, hbreak⟩ hc
      rw [body?_quoteChar hfirst, ih hlater]
      rfl

end

/-! ## Names -/

def name? (cs : List Char) : Option (String × List Char) :=
  let name := String.ofList (cs.takeWhile Text.isIdentifierPart)
  if Text.isBindable name then some (name, cs.dropWhile Text.isIdentifierPart) else none

theorem isIdentifierPart_of_isIdentifierStart {c : Char} (h : Text.isIdentifierStart c = true) :
    Text.isIdentifierPart c = true := by
  simp only [Text.isIdentifierStart, Text.isIdentifierPart, Char.isAlphanum, Bool.or_eq_true] at h ⊢
  rcases h with (halpha | hlow) | hdollar
  · exact Or.inl (Or.inl (Or.inl halpha))
  · exact Or.inl (Or.inr hlow)
  · exact Or.inr hdollar

/-- The first character of an identifier, and the others. -/
theorem isIdentifier_cons {name : String} (h : Text.isIdentifier name = true) :
    ∃ c cs, name.toList = c :: cs ∧ Text.isIdentifierStart c = true
      ∧ ∀ d ∈ c :: cs, Text.isIdentifierPart d = true := by
  unfold Text.isIdentifier at h
  cases hname : name.toList with
  | nil =>
    rw [hname] at h
    cases h
  | cons c cs =>
    rw [hname, Bool.and_eq_true, List.all_eq_true] at h
    refine ⟨c, cs, rfl, h.1, ?_⟩
    rw [List.forall_mem_cons]
    exact ⟨isIdentifierPart_of_isIdentifierStart h.1, h.2⟩

theorem isIdentifierPart_of_mem {name : String} (h : Text.isBindable name = true) :
    ∀ c ∈ name.toList, Text.isIdentifierPart c = true := by
  rw [Text.isBindable, Bool.and_eq_true] at h
  obtain ⟨c, cs, hcs, _, hparts⟩ := isIdentifier_cons h.1
  rwa [hcs]

/-- A name ends where a character follows that is no part of names. -/
theorem isIdentifierPart_head? {c : Char} (hc : Text.isIdentifierPart c = false)
    (rest : List Char) : ∀ d ∈ (c :: rest).head?, Text.isIdentifierPart d = false := by
  intro d hd
  obtain rfl : c = d := Option.some.inj hd
  exact hc

/-- The characters of a name are taken whole, and nothing of what follows them. -/
theorem span_identifierPart {cs rest : List Char}
    (hcs : ∀ c ∈ cs, Text.isIdentifierPart c = true)
    (hrest : ∀ c ∈ rest.head?, Text.isIdentifierPart c = false) :
    (cs ++ rest).takeWhile Text.isIdentifierPart = cs
      ∧ (cs ++ rest).dropWhile Text.isIdentifierPart = rest := by
  rw [List.takeWhile_append_of_pos hcs, List.dropWhile_append_of_pos hcs]
  cases rest with
  | nil => exact ⟨List.append_nil cs, rfl⟩
  | cons c rest =>
    have hc : Text.isIdentifierPart c = false := hrest c rfl
    simp [hc]

/-- A name is read up to the first character that cannot belong to it. -/
theorem name?_append {name : String} (h : Text.isBindable name = true) {rest : List Char}
    (hrest : ∀ c ∈ rest.head?, Text.isIdentifierPart c = false) :
    name? (name.toList ++ rest) = some (name, rest) := by
  obtain ⟨htake, hdrop⟩ := span_identifierPart (isIdentifierPart_of_mem h) hrest
  unfold name?
  rw [htake, hdrop, String.ofList_toList]
  exact if_pos h

theorem length_of_name? {cs later : List Char} {name : String}
    (h : name? cs = some (name, later)) : later.length ≤ cs.length := by
  simp only [name?] at h
  split at h
  · obtain ⟨_, rfl⟩ := Prod.mk.inj (Option.some.inj h)
    exact (List.dropWhile_suffix _).length_le
  · cases h

end ClientGen.Reading
