import ClientGen.Proofs.Reading.JoinedText
import Mathlib.Data.List.Basic

/-! # Marks, names and lists as they are read

  What the readers of nested things have in common. Blanks may stand in front of everything that is
  read, so a reader skips them first.

  * **`onward`** goes on behind what was read, if something was read: a reader that calls itself
    behind it comes to an end.
  * **`mark?`**, **`word?`** and **`key?`** read a single character, an identifier and a key;
    `behind` goes on behind a mark.
  * **`listed?`** reads items up to a closing mark, with commas between them.

  What follows a thing must not look as if it belonged to it. `Ahead marks rest` says that behind
  blanks nothing follows but one of the marks. -/

namespace ClientGen.Reading

/-! ## Steps -/

/-- Goes on behind what was read, provided that it is shorter than what was there before. -/
def onward {α β : Type} (cs : List Char) (read : Option (α × List Char))
    (next : (later : List Char) → later.length < cs.length → α → Option β) : Option β :=
  match read with
  | none => none
  | some (a, later) => if h : later.length < cs.length then next later h a else none

theorem onward_eq {α β : Type} {cs later : List Char} {read : Option (α × List Char)} {a : α}
    {next : (later : List Char) → later.length < cs.length → α → Option β}
    (hread : read = some (a, later)) (hlater : later.length < cs.length) :
    onward cs read next = next later hlater a := by
  subst hread
  exact dif_pos hlater

/-! ## Blanks -/

def IsGap (gap : List Char) : Prop := ∀ c ∈ gap, isBlank c = true

theorem isGap_nil : IsGap [] := fun _ hc => nomatch hc

theorem skipBlanks_append {gap : List Char} (h : IsGap gap) (cs : List Char) :
    skipBlanks (gap ++ cs) = skipBlanks cs :=
  List.dropWhile_append_of_pos h

theorem skipBlanks_cons {c : Char} (h : isBlank c = false) (cs : List Char) :
    skipBlanks (c :: cs) = c :: cs :=
  List.dropWhile_cons_of_neg (by simp [h])

theorem isBlank_of_isIdentifierPart {c : Char} (h : Text.isIdentifierPart c = true) :
    isBlank c = false := by
  cases hblank : isBlank c with
  | false => rfl
  | true =>
    simp only [isBlank, isLineEnd, Bool.or_eq_true, decide_eq_true_eq] at hblank
    rcases hblank with (rfl | rfl) | (((rfl | rfl) | rfl) | rfl) <;> revert h <;> decide

/-- Behind blanks comes one of the marks, or nothing. -/
def Ahead (marks rest : List Char) : Prop := ∀ c ∈ (skipBlanks rest).head?, c ∈ marks

theorem Ahead.mono {marks more rest : List Char} (h : Ahead marks rest) (hmore : marks ⊆ more) :
    Ahead more rest :=
  fun c hc => hmore (h c hc)

theorem ahead_gap {gap : List Char} {c : Char} {marks : List Char} (hgap : IsGap gap)
    (hc : isBlank c = false) (hmark : c ∈ marks) (rest : List Char) :
    Ahead marks (gap ++ c :: rest) := by
  intro d hd
  rw [skipBlanks_append hgap, skipBlanks_cons hc] at hd
  obtain rfl : c = d := Option.some.inj hd
  exact hmark

/-- A name ends where blanks or marks follow. -/
theorem Ahead.isIdentifierPart_eq_false {marks rest : List Char} (h : Ahead marks rest)
    (hmarks : ∀ c ∈ marks, Text.isIdentifierPart c = false) :
    ∀ c ∈ rest.head?, Text.isIdentifierPart c = false := by
  cases rest with
  | nil => exact fun c hc => nomatch hc
  | cons d rest =>
    intro c hc
    obtain rfl : d = c := Option.some.inj hc
    cases hpart : Text.isIdentifierPart d with
    | false => rfl
    | true =>
      -- It is no blank, so it would be one of the marks.
      have hd : d ∈ marks := by
        apply h d
        rw [skipBlanks_cons (isBlank_of_isIdentifierPart hpart)]
        rfl
      rw [hmarks d hd] at hpart
      cases hpart

/-! ## Single characters -/

/-- The first character that is no blank, and what follows it. -/
def char? (cs : List Char) : Option (Char × List Char) :=
  match skipBlanks cs with
  | [] => none
  | c :: rest => some (c, rest)

theorem char?_gap {gap : List Char} {c : Char} (hgap : IsGap gap) (hc : isBlank c = false)
    (rest : List Char) : char? (gap ++ c :: rest) = some (c, rest) := by
  rw [char?, skipBlanks_append hgap, skipBlanks_cons hc]

/-- What follows a mark, if the mark comes first behind blanks. -/
def mark? (mark : Char) (cs : List Char) : Option (List Char) :=
  (char? cs).bind fun read => if read.1 = mark then some read.2 else none

theorem mark?_gap {gap : List Char} {c : Char} (hgap : IsGap gap) (hc : isBlank c = false)
    (rest : List Char) : mark? c (gap ++ c :: rest) = some rest := by
  rw [mark?, char?_gap hgap hc]
  exact if_pos rfl

theorem mark?_gap_of_ne {gap : List Char} {c mark : Char} (hgap : IsGap gap)
    (hc : isBlank c = false) (hne : c ≠ mark) (rest : List Char) :
    mark? mark (gap ++ c :: rest) = none := by
  rw [mark?, char?_gap hgap hc]
  exact if_neg hne

theorem mark?_eq_none {marks rest : List Char} (h : Ahead marks rest) {mark : Char}
    (hmark : mark ∉ marks) : mark? mark rest = none := by
  unfold mark? char?
  cases hskip : skipBlanks rest with
  | nil => rfl
  | cons c later =>
    -- What comes first behind blanks is another mark.
    have hc : c ∈ marks := h c (by rw [hskip]; rfl)
    have hne : c ≠ mark := by
      rintro rfl
      exact hmark hc
    exact if_neg hne

theorem length_of_char? {cs later : List Char} {c : Char} (h : char? cs = some (c, later)) :
    later.length < cs.length := by
  unfold char? at h
  have hskip := length_skipBlanks_le cs
  cases hcs : skipBlanks cs with
  | nil => simp [hcs] at h
  | cons d rest =>
    obtain ⟨_, rfl⟩ : d = c ∧ rest = later := by simpa [hcs] using h
    rw [hcs, List.length_cons] at hskip
    omega

theorem length_of_mark? {mark : Char} {cs later : List Char} (h : mark? mark cs = some later) :
    later.length < cs.length := by
  obtain ⟨⟨c, rest⟩, hchar, hmark⟩ := Option.bind_eq_some_iff.mp h
  split at hmark
  · obtain rfl := Option.some.inj hmark
    exact length_of_char? hchar
  · cases hmark

/-- Goes on behind a mark if the mark comes first behind blanks. -/
def behind {β : Type} (mark : Char) (cs : List Char) (otherwise : Option β)
    (next : (later : List Char) → later.length < cs.length → Option β) : Option β :=
  match h : mark? mark cs with
  | none => otherwise
  | some later => next later (length_of_mark? h)

section

variable {β : Type} {mark : Char} {cs later : List Char} {otherwise : Option β}
  {next : (later : List Char) → later.length < cs.length → Option β}

theorem behind_of_none (h : mark? mark cs = none) : behind mark cs otherwise next = otherwise := by
  unfold behind
  split
  · rfl
  · next hsome =>
    rw [h] at hsome
    cases hsome

theorem behind_of_some (h : mark? mark cs = some later) :
    behind mark cs otherwise next = next later (length_of_mark? h) := by
  unfold behind
  split
  · next hnone =>
    rw [h] at hnone
    cases hnone
  · next hsome =>
    rw [h] at hsome
    obtain rfl := Option.some.inj hsome
    rfl

end

/-! ## Words and keys -/

/-- The identifier that comes first behind blanks, and what follows it. -/
def word? (cs : List Char) : Option (String × List Char) :=
  let word := String.ofList ((skipBlanks cs).takeWhile Text.isIdentifierPart)
  if Text.isIdentifier word then
    some (word, (skipBlanks cs).dropWhile Text.isIdentifierPart)
  else none

theorem word?_gap {gap : List Char} {name : String} {rest : List Char} (hgap : IsGap gap)
    (hname : Text.isIdentifier name = true)
    (hrest : ∀ c ∈ rest.head?, Text.isIdentifierPart c = false) :
    word? (gap ++ name.toList ++ rest) = some (name, rest) := by
  obtain ⟨c, cs, hcs, _, hparts⟩ := isIdentifier_cons hname
  have hskip : skipBlanks (gap ++ name.toList ++ rest) = name.toList ++ rest := by
    rw [List.append_assoc, skipBlanks_append hgap, hcs, List.cons_append,
      skipBlanks_cons (isBlank_of_isIdentifierPart (hparts c List.mem_cons_self))]
  rw [← hcs] at hparts
  obtain ⟨htake, hdrop⟩ := span_identifierPart hparts hrest
  unfold word?
  rw [hskip, htake, hdrop, String.ofList_toList]
  exact if_pos hname

/-- A mark that is no part of names does not come first where a name does. -/
theorem mark?_name_eq_none {gap : List Char} {name : String} {mark : Char} (hgap : IsGap gap)
    (hname : Text.isIdentifier name = true) (hmark : Text.isIdentifierPart mark = false)
    (rest : List Char) : mark? mark (gap ++ name.toList ++ rest) = none := by
  obtain ⟨c, cs, hcs, _, hparts⟩ := isIdentifier_cons hname
  have hc := hparts c List.mem_cons_self
  have hne : c ≠ mark := by
    rintro rfl
    rw [hc] at hmark
    cases hmark
  rw [hcs, List.append_assoc, List.cons_append]
  exact mark?_gap_of_ne hgap (isBlank_of_isIdentifierPart hc) hne _

/-- Where no name can begin, no word is read. -/
theorem word?_eq_none {marks rest : List Char} (h : Ahead marks rest)
    (hmarks : ∀ c ∈ marks, Text.isIdentifierPart c = false) : word? rest = none := by
  have htake : (skipBlanks rest).takeWhile Text.isIdentifierPart = [] := by
    cases hskip : skipBlanks rest with
    | nil => rfl
    | cons c later =>
      have hc : Text.isIdentifierPart c = false := hmarks c (h c (by rw [hskip]; rfl))
      rw [List.takeWhile_cons, hc]
      rfl
  unfold word?
  rw [htake]
  rfl

/-- The key of an object that comes first behind blanks, bare or between quotes, and what follows
    it. -/
def key? (cs : List Char) : Option (String × List Char) :=
  match mark? '\x27' cs with
  | none => word? cs
  | some rest =>
    ((quotedForm fun _ => false).body? rest).map fun read => (String.ofList read.1, read.2)

theorem body?_quote (s : String) (rest : List Char) :
    ∃ later, (Layout.quote s).toList ++ rest = '\x27' :: later
      ∧ (quotedForm fun _ => false).body? later = some (s.toList, rest) := by
  exact ⟨_, toList_quote_append s rest, quotedForm_quote (fun _ _ _ => rfl) rest⟩

/-- A key begins with a part of a name or with a quote. -/
theorem keyText_cons (name : String) :
    ∃ c cs, (Layout.keyText name).toList = c :: cs
      ∧ (Text.isIdentifierPart c = true ∨ c = '\x27') := by
  unfold Layout.keyText
  by_cases hname : Text.isIdentifier name = true
  · obtain ⟨c, cs, hcs, _, hparts⟩ := isIdentifier_cons hname
    rw [if_pos hname]
    exact ⟨c, cs, hcs, .inl (hparts c List.mem_cons_self)⟩
  · obtain ⟨later, hquote, _⟩ := body?_quote name []
    rw [if_neg hname]
    exact ⟨'\x27', later, by rwa [List.append_nil] at hquote, .inr rfl⟩

/-- **Reading a key** gives the name that it was written for. -/
theorem key?_gap {gap : List Char} (hgap : IsGap gap) (name : String) {rest : List Char}
    (hrest : ∀ c ∈ rest.head?, Text.isIdentifierPart c = false) :
    key? (gap ++ (Layout.keyText name).toList ++ rest) = some (name, rest) := by
  unfold Layout.keyText
  -- A key is bare or quoted, and no bare one begins with a quote.
  by_cases hname : Text.isIdentifier name = true
  · have hmark : mark? '\x27' (gap ++ name.toList ++ rest) = none :=
      mark?_name_eq_none hgap hname (by decide) rest
    rw [if_pos hname, key?, hmark]
    exact word?_gap hgap hname hrest
  · obtain ⟨later, hquote, hbody⟩ := body?_quote name rest
    rw [if_neg hname, key?, List.append_assoc, hquote, mark?_gap hgap (by decide)]
    show Option.map _ ((quotedForm fun _ => false).body? later) = _
    rw [hbody, Option.map_some, String.ofList_toList]

/-! ## Lists -/

section

variable {α β : Type} (closing : Char) {n : Nat}
  (item? : (cs : List Char) → cs.length ≤ n → Option (α × List Char))

/-- One item and those behind commas, up to the closing mark. -/
def items? (cs : List Char) (hcs : cs.length ≤ n) : Option (List α × List Char) :=
  onward cs (item? cs hcs) fun later hlater first =>
    match mark? closing later with
    | some rest => some ([first], rest)
    | none =>
      behind ',' later none fun rest hrest =>
        have hshorter : rest.length < cs.length := Nat.lt_trans hrest hlater
        (items? rest (Nat.le_trans (Nat.le_of_lt hshorter) hcs)).map fun read =>
          (first :: read.1, read.2)
termination_by cs.length

/-- The items of a list up to its closing mark. -/
def listed? (cs : List Char) (hcs : cs.length ≤ n) : Option (List α × List Char) :=
  match mark? closing cs with
  | some rest => some ([], rest)
  | none => items? closing item? cs hcs

variable {closing} {item?}

theorem items?_last {cs later rest : List Char} {hcs : cs.length ≤ n} {a : α}
    (hread : item? cs hcs = some (a, later)) (hlater : later.length < cs.length)
    (hclosing : mark? closing later = some rest) :
    items? closing item? cs hcs = some ([a], rest) := by
  rw [items?, onward_eq hread hlater, hclosing]

theorem items?_more {cs later rest : List Char} {hcs : cs.length ≤ n} {a : α}
    (hread : item? cs hcs = some (a, later)) (hlater : later.length < cs.length)
    (hclosing : mark? closing later = none) (hcomma : mark? ',' later = some rest)
    (hrest : rest.length ≤ n) :
    items? closing item? cs hcs
      = (items? closing item? rest hrest).map fun read => (a :: read.1, read.2) := by
  rw [items?, onward_eq hread hlater, hclosing]
  exact behind_of_some hcomma

variable {item : β → α} {written : β → List Char}

/-- **Reading items** that are written with commas between them gives all of them, if each is read
    wherever a comma or the closing mark follows. -/
theorem items?_intercalate {between behind : List Char} (hbetween : IsGap between)
    (hbehind : IsGap behind) (hblank : isBlank closing = false) (hcomma : closing ≠ ',')
    {xs : List β} (hxs : xs ≠ []) (hwritten : ∀ x ∈ xs, written x ≠ [])
    (hread : ∀ x ∈ xs, ∀ gap rest hlength, IsGap gap → Ahead [',', closing] rest →
      item? (gap ++ written x ++ rest) hlength = some (item x, rest))
    {gap rest cs : List Char} (hgap : IsGap gap) (hcs : cs.length ≤ n)
    (h : cs = gap ++ List.intercalate (',' :: between) (xs.map written)
      ++ (behind ++ closing :: rest)) :
    items? closing item? cs hcs = some (xs.map item, rest) := by
  induction xs generalizing gap cs with
  | nil => exact absurd rfl hxs
  | cons x xs ih =>
    rw [List.forall_mem_cons] at hwritten hread
    have hpos : 0 < (written x).length := List.length_pos_of_ne_nil hwritten.1
    cases xs with
    | nil =>
      rw [List.map_cons, List.map_nil, List.intercalate_singleton] at h
      subst h
      have hahead : Ahead [',', closing] (behind ++ closing :: rest) :=
        ahead_gap hbehind hblank (by simp) rest
      refine items?_last (hread.1 gap _ hcs hgap hahead) ?_ (mark?_gap hbehind hblank rest)
      simp only [List.length_append]
      omega
    | cons y ys =>
      -- The item ends at the comma; the others begin behind it.
      obtain ⟨later, hlater⟩ : ∃ later, later = between
          ++ List.intercalate (',' :: between) ((y :: ys).map written)
          ++ (behind ++ closing :: rest) := ⟨_, rfl⟩
      have hsplit : cs = gap ++ written x ++ ',' :: later := by
        rw [h, hlater, List.map_cons, List.map_cons, List.intercalate_cons_cons]
        simp
      subst hsplit
      have hahead : Ahead [',', closing] (',' :: later) :=
        ahead_gap isGap_nil (by decide) (by simp) later
      have hlength : later.length ≤ n := by
        simp only [List.length_append, List.length_cons] at hcs
        omega
      rw [items?_more (hread.1 gap _ hcs hgap hahead) (by simp; omega)
        (mark?_gap_of_ne isGap_nil (by decide) (Ne.symm hcomma) later)
        (mark?_gap isGap_nil (by decide) later) hlength,
        ih (by simp) hwritten.2 hread.2 hbetween hlength hlater]
      rfl

theorem listed?_nil {cs rest : List Char} (hcs : cs.length ≤ n)
    (hclosing : mark? closing cs = some rest) :
    listed? closing item? cs hcs = some ([], rest) := by
  rw [listed?, hclosing]

/-- **Reading a list** that has items, none of which begins like its end. -/
theorem listed?_intercalate (written : β → List Char) {between behind : List Char}
    (hbetween : IsGap between) (hbehind : IsGap behind) (hblank : isBlank closing = false)
    (hcomma : closing ≠ ',') {xs : List β} (hxs : xs ≠ [])
    (hfirst : ∀ x ∈ xs, ∃ c cs, written x = c :: cs ∧ isBlank c = false ∧ c ≠ closing)
    (hread : ∀ x ∈ xs, ∀ gap rest hlength, IsGap gap → Ahead [',', closing] rest →
      item? (gap ++ written x ++ rest) hlength = some (item x, rest))
    {gap rest cs : List Char} (hgap : IsGap gap) (hcs : cs.length ≤ n)
    (h : cs = gap ++ List.intercalate (',' :: between) (xs.map written)
      ++ (behind ++ closing :: rest)) :
    listed? closing item? cs hcs = some (xs.map item, rest) := by
  have hwritten : ∀ x ∈ xs, written x ≠ [] := by
    intro x hx
    obtain ⟨c, cs, hcs, _⟩ := hfirst x hx
    rw [hcs]
    exact List.cons_ne_nil c cs
  -- The first item begins with another mark than the closing one.
  have hclosing : mark? closing cs = none := by
    cases xs with
    | nil => exact absurd rfl hxs
    | cons x xs =>
      obtain ⟨c, first, hc, hblank, hne⟩ := hfirst x List.mem_cons_self
      obtain ⟨later, hlater⟩ : ∃ later, cs = gap ++ c :: later := by
        cases xs with
        | nil =>
          rw [h, List.map_cons, List.map_nil, List.intercalate_singleton, hc, List.append_assoc]
          exact ⟨_, rfl⟩
        | cons y ys =>
          rw [h, List.map_cons, List.map_cons, List.intercalate_cons_cons, hc]
          simp only [List.append_assoc, List.cons_append]
          exact ⟨_, rfl⟩
      rw [hlater]
      exact mark?_gap_of_ne hgap hblank hne later
  rw [listed?, hclosing]
  exact items?_intercalate hbetween hbehind hblank hcomma hxs hwritten hread hgap hcs h

end

end ClientGen.Reading
