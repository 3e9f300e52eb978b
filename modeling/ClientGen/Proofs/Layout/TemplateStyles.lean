import ClientGen.Layout.Expr
import ClientGen.Operation.Compile
import ClientGen.Proofs.PathTemplate.Filling
import ClientGen.Proofs.Reading.JoinedText

/-! # The two styles of templates

  A template of text and names is written between backquotes in one dialect and as a sum in the
  other. Both should stand for the text with the values of the names filled in. What they do stand
  for is said here exactly:

  * **Between backquotes** the template is always well-formed, but a carriage return in its text is
    read as a line feed, alone or together with a line feed behind it (`template?_backquoted`).
  * **The sum** stands for the filled text, but it is well-formed only if its text has no line
    separator and no paragraph separator (`sum?_summed`).

  So the styles agree exactly on the templates without these three characters
  (`stylesAgree_iff`). -/

namespace ClientGen.Layout

def templateOf (segments : List Segment) : Expr :=
  .template (segments.map Operation.partOfSegment)

variable (value : String → String)

/-! ## Between backquotes -/

/-- What the text of a template is made of. -/
inductive TemplateUnit where
  | char (c : Char)
  /-- A name that is filled in. -/
  | name (n : String)
  deriving DecidableEq

namespace TemplateUnit

def written : TemplateUnit → List Char
  | .char c => templateChar c
  | .name n => '$' :: '\x7b' :: (n.toList ++ ['\x7d'])

/-- What a unit is meant to stand for. -/
def filled (value : String → String) : TemplateUnit → List Char
  | .char c => [c]
  | .name n => (value n).toList

def ofSegment : Segment → List TemplateUnit
  | .literal text => text.toList.map .char
  | .placeholder n => [.name n]

/-- What units stand for between backquotes, behind a carriage return or not. -/
def unified (value : String → String) : Bool → List TemplateUnit → List Char
  | _, [] => []
  | _, .name n :: rest => (value n).toList ++ unified value false rest
  | afterReturn, .char c :: rest =>
    if c = '\r' then '\n' :: unified value true rest
    else if c = '\n' ∧ afterReturn then unified value false rest
    else c :: unified value false rest

end TemplateUnit

open TemplateUnit

def unitsOf (segments : List Segment) : List TemplateUnit := segments.flatMap ofSegment

theorem toList_templateText (s : String) :
    (templateText s).toList = (s.toList.map TemplateUnit.char).flatMap written := by
  simp only [templateText, String.toList_ofList, List.flatMap_map]
  rfl

theorem toList_templateParts (level : Nat) (segments : List Segment) :
    (templateParts .backquoted level (segments.map Operation.partOfSegment)).toList
      = (unitsOf segments).flatMap written := by
  induction segments with
  | nil => rfl
  | cons segment rest ih =>
    have hunits : unitsOf (segment :: rest) = ofSegment segment ++ unitsOf rest :=
      List.flatMap_cons
    rw [hunits, List.flatMap_append, ← ih]
    cases segment with
    | literal text =>
      rw [List.map_cons, Operation.partOfSegment, templateParts, String.toList_append,
        toList_templateText, ofSegment]
    | placeholder n =>
      rw [List.map_cons, Operation.partOfSegment, templateParts, expr]
      simp [ofSegment, written]

/-! ### Reading units -/

/-- A written character is one unit that stands for itself, but a carriage return is not. -/
theorem body?_templateChar {c : Char} (h : c ≠ '\r') (rest : List Char) :
    (Reading.templateForm value).body? (templateChar c ++ rest)
      = ((Reading.templateForm value).body? rest).map fun read => (c :: read.1, read.2) := by
  -- Three marks mean something between backquotes and are escaped; every other character is kept.
  by_cases hmark : c = '\\' ∨ c = '\x60' ∨ c = '$'
  · have hwritten : templateChar c = ['\\', c] := by
      rcases hmark with rfl | rfl | rfl <;> rfl
    have hescape : Reading.escape? (c :: rest) = some ([c], rest) := by
      rcases hmark with rfl | rfl | rfl <;> rfl
    have hunit : Reading.templateUnit? value '\\' (c :: rest) = some ([c], rest) := by
      rw [Reading.templateUnit?, if_pos rfl, hescape]
    rw [hwritten]
    exact Reading.templateForm_unit value (by decide) hunit
  · rw [not_or, not_or] at hmark
    obtain ⟨hslash, hquote, hdollar⟩ := hmark
    have hwritten : templateChar c = [c] := by simp [templateChar, hslash, hquote, hdollar]
    have hunit : Reading.templateUnit? value c rest = some ([c], rest) := by
      simp [Reading.templateUnit?, hslash, hdollar, h]
    rw [hwritten]
    exact Reading.templateForm_unit value hquote hunit

/-- A carriage return counts as a line feed, and takes a line feed behind it with it. -/
theorem body?_carriageReturn (rest : List Char) :
    (Reading.templateForm value).body? ('\r' :: rest)
      = ((Reading.templateForm value).body? (Reading.dropLineFeed rest)).map
          fun read => ('\n' :: read.1, read.2) := by
  have hunit : Reading.templateUnit? value '\r' rest
      = some (['\n'], Reading.dropLineFeed rest) := by
    simp [Reading.templateUnit?]
  exact Reading.templateForm_unit value (by decide) hunit

/-- A name that is filled in stands for its value. -/
theorem body?_name {n : String} (h : Text.isBindable n = true) (rest : List Char) :
    (Reading.templateForm value).body? (written (.name n) ++ rest)
      = ((Reading.templateForm value).body? rest).map
          fun read => ((value n).toList ++ read.1, read.2) := by
  have hname : Reading.name? (n.toList ++ '\x7d' :: rest) = some (n, '\x7d' :: rest) := by
    apply Reading.name?_append h
    exact Reading.isIdentifierPart_head? (by decide) rest
  have hunit : Reading.templateUnit? value '$' ('\x7b' :: (n.toList ++ '\x7d' :: rest))
      = some ((value n).toList, rest) := by
    simp [Reading.templateUnit?, Reading.filled?, hname]
  have hwritten : written (.name n) ++ rest = '$' :: '\x7b' :: (n.toList ++ '\x7d' :: rest) := by
    simp [written]
  rw [hwritten]
  exact Reading.templateForm_unit value (by decide) hunit

/-- Only a line feed is written as something that begins with a line feed. -/
theorem dropLineFeed_written {u : TemplateUnit} (h : u ≠ .char '\n') (rest : List Char) :
    Reading.dropLineFeed (written u ++ rest) = written u ++ rest := by
  cases u with
  | name n => rfl
  | char c =>
    have hc : c ≠ '\n' := by
      rintro rfl
      exact h rfl
    simp only [written, templateChar]
    split
    · rfl
    · exact Reading.dropLineFeed_cons_of_ne hc rest

/-- Units between backquotes are read as what they stand for there. What stands behind a carriage
    return is treated together with what stands elsewhere, since one leads to the other. -/
theorem body?_units {us : List TemplateUnit} (names : ∀ n, .name n ∈ us → Text.isBindable n = true)
    (rest : List Char) :
    (Reading.templateForm value).body? (us.flatMap written ++ '\x60' :: rest)
        = some (unified value false us, rest)
      ∧ (Reading.templateForm value).body?
          (Reading.dropLineFeed (us.flatMap written ++ '\x60' :: rest))
        = some (unified value true us, rest) := by
  -- Both statements are proved together: a carriage return leads from the first to the second.
  induction us with
  | nil =>
    have hclosing := Reading.LiteralForm.body?_closing (Reading.templateForm value) rest
    exact ⟨hclosing, hclosing⟩
  | cons u us ih =>
    obtain ⟨hplain, hafter⟩ := ih fun n hn => names n (List.mem_cons_of_mem u hn)
    rw [List.flatMap_cons, List.append_assoc]
    cases u with
    | name n =>
      have hn : Text.isBindable n = true := names n (List.mem_cons_self ..)
      rw [dropLineFeed_written (by simp), body?_name value hn, hplain]
      exact ⟨rfl, rfl⟩
    | char c =>
      by_cases hreturn : c = '\r'
      · subst hreturn
        rw [dropLineFeed_written (by simp)]
        have hread := body?_carriageReturn value (us.flatMap written ++ '\x60' :: rest)
        rw [hafter] at hread
        exact ⟨hread, hread⟩
      · have hread := body?_templateChar value hreturn
          (us.flatMap written ++ '\x60' :: rest)
        rw [hplain] at hread
        by_cases hfeed : c = '\n'
        · subst hfeed
          -- Behind a carriage return the line feed is dropped.
          exact ⟨hread, hplain⟩
        · rw [dropLineFeed_written (by simpa using hfeed)]
          have hunified : ∀ afterReturn, unified value afterReturn (.char c :: us)
              = c :: unified value false us := by
            intro afterReturn
            simp [unified, hreturn, hfeed]
          rw [hunified, hunified]
          exact ⟨hread, hread⟩

/-- What a template between backquotes stands for. -/
theorem template?_backquoted {segments : List Segment}
    (names : ∀ n, .placeholder n ∈ segments → Text.isBindable n = true) (level : Nat) :
    Reading.template? value (expr .backquoted level (templateOf segments))
      = some (String.ofList (unified value false (unitsOf segments))) := by
  -- The names of the units are those of the placeholders.
  have hnames : ∀ n, .name n ∈ unitsOf segments → Text.isBindable n = true := by
    intro n hn
    obtain ⟨segment, hsegment, hunit⟩ := List.mem_flatMap.mp hn
    cases segment with
    | literal text => simp [ofSegment] at hunit
    | placeholder m =>
      obtain rfl : n = m := by simpa [ofSegment] using hunit
      exact names n hsegment
  have hread := (body?_units value hnames []).1
  have hwritten : (expr .backquoted level (templateOf segments)).toList
      = '\x60' :: ((unitsOf segments).flatMap written ++ ['\x60']) := by
    rw [templateOf, expr, String.toList_append, String.toList_append, toList_templateParts]
    rfl
  rw [Reading.template?, hwritten]
  simp [hread]

/-! ## As a sum -/

/-- The operand that a segment is written as. -/
def operandText : Segment → String
  | .literal text => quote text
  | .placeholder n => n

/-- The operands of the sum that a template is written as: its segments without the empty ones, and
    an empty text in front where a text must stand. -/
def operandsOf (segments : List Segment) : List Segment :=
  (if Script.beginsWithText (segments.map Operation.partOfSegment) then [] else [.literal ""])
    ++ segments.filter (· ≠ .literal "")

theorem writtenSummands_segments (level : Nat) (segments : List Segment) :
    writtenSummands .summed level (segments.map Operation.partOfSegment)
      = (segments.filter (· ≠ .literal "")).map fun s => (operandText s, false) := by
  induction segments with
  | nil => rfl
  | cons segment rest ih =>
    cases segment with
    | literal text =>
      rw [List.map_cons, Operation.partOfSegment, writtenSummands]
      by_cases hempty : text = ""
      · subst hempty
        rw [if_pos rfl, ih, List.filter_cons_of_neg (by simp)]
      · rw [if_neg hempty, ih, List.filter_cons_of_pos (by simpa using hempty)]
        rfl
    | placeholder n =>
      rw [List.map_cons, Operation.partOfSegment, writtenSummands, ih,
        List.filter_cons_of_pos (by simp)]
      rfl

/-- A sum of operands without parentheses, from the left to the right. -/
theorem toList_writeSum_cons (first : Segment) (rest : List Segment) :
    (writeSum ((first :: rest).map fun s => (operandText s, false))).toList
      = (operandText first).toList
        ++ rest.flatMap fun s => ' ' :: '+' :: ' ' :: (operandText s).toList := by
  -- The fold adds to what is written already, so this is generalised.
  have hfold : ∀ (rest : List Segment) (left : String),
      ((rest.map fun s => (operandText s, false)).foldl
          (fun left right => left ++ " + " ++ operand right.2 right.1) left).toList
        = left.toList ++ rest.flatMap fun s => ' ' :: '+' :: ' ' :: (operandText s).toList := by
    intro rest
    induction rest with
    | nil =>
      intro left
      simp
    | cons s rest ih =>
      intro left
      rw [List.map_cons, List.foldl_cons, ih]
      simp [operand]
  rw [List.map_cons, writeSum]
  exact hfold rest (operandText first)

theorem expr_summed (level : Nat) (segments : List Segment) :
    expr .summed level (templateOf segments)
      = writeSum ((operandsOf segments).map fun s => (operandText s, false)) := by
  rw [templateOf, expr, startSum, writtenSummands_segments, operandsOf, List.map_append]
  congr 2
  split <;> rfl

/-! ### Reading operands -/

/-- The characters that end a line but are written as they are between quotes. -/
def isSeparator (c : Char) : Bool := c = '\u2028' || c = '\u2029'

theorem isSeparator_iff {c : Char} :
    isSeparator c = true ↔ quoteChar c = [c] ∧ Reading.isLineEnd c = true := by
  rw [Reading.quoteChar_eq_self_iff]
  simp only [isSeparator, Reading.isLineEnd, Bool.or_eq_true, decide_eq_true_eq]
  constructor
  · rintro (rfl | rfl) <;> decide
  · rintro ⟨⟨_, _, hfeed, hreturn, _⟩, (((h | h) | h) | h)⟩
    · exact absurd h hfeed
    · exact absurd h hreturn
    · exact Or.inl h
    · exact Or.inr h

/-- Whether a segment is well-formed as an operand. -/
def isReadable : Segment → Bool
  | .literal text => !text.toList.any isSeparator
  | .placeholder _ => true

/-- An operand is read as what its segment stands for, if a blank or nothing follows. -/
theorem operand?_operandText {segment : Segment}
    (name : ∀ n, segment = .placeholder n → Text.isBindable n = true) {rest : List Char}
    (hrest : ∀ c ∈ rest.head?, c = ' ') :
    Reading.operand? value (Reading.skipBlanks ((operandText segment).toList ++ rest))
      = if isReadable segment then some ((segment.filled value).toList, rest) else none := by
  cases segment with
  | literal text =>
    have hskip : ∀ cs, Reading.skipBlanks ('\x27' :: cs) = '\x27' :: cs := fun _ => rfl
    rw [operandText, Reading.toList_quote_append, hskip, Reading.operand?, if_pos rfl]
    -- A separator is written as it is, and ends the line inside the literal.
    cases hany : text.toList.any isSeparator with
    | true =>
      obtain ⟨c, hc, hseparator⟩ := List.any_eq_true.mp hany
      rw [Reading.quotedForm_quote_eq_none ⟨c, hc, isSeparator_iff.mp hseparator⟩]
      simp [isReadable, hany]
    | false =>
      have hfree : ∀ c ∈ text.toList, quoteChar c = [c] → Reading.isLineEnd c = false := by
        intro c hc hself
        cases hend : Reading.isLineEnd c with
        | false => rfl
        | true =>
          have hseparator := isSeparator_iff.mpr ⟨hself, hend⟩
          exact absurd hseparator (List.any_eq_false.mp hany c hc)
      rw [Reading.quotedForm_quote hfree]
      simp [isReadable, hany, Segment.filled]
  | placeholder n =>
    have hn : Text.isBindable n = true := name n rfl
    have hname : Reading.name? (n.toList ++ rest) = some (n, rest) := by
      apply Reading.name?_append hn
      intro c hc
      rw [hrest c hc]
      rfl
    rw [operandText]
    exact Reading.operand?_name value hname

/-- What segments are meant to stand for. -/
def filledOf (value : String → String) (segments : List Segment) : List Char :=
  segments.flatMap fun s => (s.filled value).toList

/-- One operand and what follows it are read one after the other. -/
theorem operands?_operandText {segment : Segment}
    (name : ∀ n, segment = .placeholder n → Text.isBindable n = true) {cs rest : List Char}
    (hplus : Reading.skipBlanks cs = '+' :: ((operandText segment).toList ++ rest)
      ∨ Reading.skipBlanks cs = '+' :: ' ' :: ((operandText segment).toList ++ rest))
    (hrest : ∀ c ∈ rest.head?, c = ' ') :
    Reading.operands? value cs
      = if isReadable segment then
          (Reading.operands? value rest).map ((segment.filled value).toList ++ ·)
        else none := by
  have hoperand := operand?_operandText value name hrest
  -- A blank behind the plus sign makes no difference.
  obtain ⟨behind, hcs, hbehind⟩ : ∃ behind, Reading.skipBlanks cs = '+' :: behind
      ∧ Reading.operand? value (Reading.skipBlanks behind)
        = Reading.operand? value (Reading.skipBlanks ((operandText segment).toList ++ rest)) := by
    rcases hplus with hcs | hcs
    · exact ⟨_, hcs, rfl⟩
    · exact ⟨_, hcs, rfl⟩
  rw [hoperand] at hbehind
  cases hreadable : isReadable segment with
  | true =>
    rw [hreadable, if_pos rfl] at hbehind
    rw [if_pos rfl]
    exact Reading.operands?_plus value hcs hbehind
  | false =>
    rw [hreadable, if_neg (by simp)] at hbehind
    rw [if_neg (by simp)]
    exact Reading.operands?_plus_eq_none value hcs hbehind

/-- The operands behind the first one. -/
def laterOperands (segments : List Segment) : List Char :=
  segments.flatMap fun s => ' ' :: '+' :: ' ' :: (operandText s).toList

theorem head?_laterOperands (segments : List Segment) :
    ∀ c ∈ (laterOperands segments).head?, c = ' ' := by
  intro c hc
  cases segments with
  | nil => cases hc
  | cons s rest => exact (Option.some.inj hc).symm

theorem operands?_laterOperands {segments : List Segment}
    (names : ∀ n, .placeholder n ∈ segments → Text.isBindable n = true) :
    Reading.operands? value (laterOperands segments)
      = if segments.all isReadable then some (filledOf value segments) else none := by
  induction segments with
  | nil => exact Reading.operands?_end value rfl
  | cons s rest ih =>
    have hs : ∀ n, s = .placeholder n → Text.isBindable n = true := by
      rintro n rfl
      exact names n (List.mem_cons_self ..)
    have hplus : Reading.skipBlanks (laterOperands (s :: rest))
        = '+' :: ' ' :: ((operandText s).toList ++ laterOperands rest) := rfl
    have hread := operands?_operandText value hs (Or.inr hplus) (head?_laterOperands rest)
    rw [hread, ih fun n hn => names n (List.mem_cons_of_mem s hn), List.all_cons]
    cases isReadable s <;> cases rest.all isReadable <;> rfl

/-- What a sum of operands stands for. A sum without operands is written as an empty text. -/
theorem sum?_writeSum {segments : List Segment}
    (names : ∀ n, .placeholder n ∈ segments → Text.isBindable n = true) :
    Reading.sum? value (writeSum (segments.map fun s => (operandText s, false)))
      = if segments.all isReadable then some (String.ofList (filledOf value segments))
        else none := by
  -- The first operand is read as if a plus sign stood before it.
  have hcons : ∀ (first : Segment) (rest : List Segment),
      (∀ n, .placeholder n ∈ first :: rest → Text.isBindable n = true) →
      Reading.sum? value (writeSum ((first :: rest).map fun s => (operandText s, false)))
        = if (first :: rest).all isReadable then
            some (String.ofList (filledOf value (first :: rest)))
          else none := by
    intro first rest names
    have hfirst : ∀ n, first = .placeholder n → Text.isBindable n = true := by
      rintro n rfl
      exact names n (List.mem_cons_self ..)
    have hplus : Reading.skipBlanks ('+' :: ((operandText first).toList ++ laterOperands rest))
        = '+' :: ((operandText first).toList ++ laterOperands rest) := rfl
    have hread := operands?_operandText value hfirst (Or.inl hplus) (head?_laterOperands rest)
    have hwritten : (writeSum ((first :: rest).map fun s => (operandText s, false))).toList
        = (operandText first).toList ++ laterOperands rest := toList_writeSum_cons first rest
    have hrest : ∀ n, .placeholder n ∈ rest → Text.isBindable n = true := by
      intro n hn
      exact names n (List.mem_cons_of_mem first hn)
    rw [Reading.sum?, hwritten, hread, operands?_laterOperands value hrest, List.all_cons]
    cases isReadable first <;> cases rest.all isReadable <;> rfl
  cases segments with
  | nil => exact hcons (.literal "") [] (by simp)
  | cons first rest => exact hcons first rest names

/-- The segments that are left out of the sum are read as nothing. -/
theorem all_isReadable_operandsOf (segments : List Segment) :
    (operandsOf segments).all isReadable = segments.all isReadable := by
  -- The empty literal is readable, so it may be left out or put in front.
  have hkept : (segments.filter (· ≠ .literal "")).all isReadable = segments.all isReadable := by
    induction segments with
    | nil => rfl
    | cons s rest ih =>
      by_cases hempty : s = .literal ""
      · subst hempty
        rw [List.filter_cons_of_neg (by simp), ih, List.all_cons]
        rfl
      · rw [List.filter_cons_of_pos (by simpa using hempty), List.all_cons, List.all_cons, ih]
  rw [operandsOf, List.all_append, hkept]
  split <;> rfl

theorem filledOf_operandsOf (segments : List Segment) :
    filledOf value (operandsOf segments) = filledOf value segments := by
  -- Neither the literals that are left out nor the one put in front add any text.
  have hkept : filledOf value (segments.filter (· ≠ .literal "")) = filledOf value segments := by
    induction segments with
    | nil => rfl
    | cons s rest ih =>
      unfold filledOf at ih ⊢
      by_cases hempty : s = .literal ""
      · subst hempty
        rw [List.filter_cons_of_neg (by simp), ih, List.flatMap_cons]
        rfl
      · rw [List.filter_cons_of_pos (by simpa using hempty), List.flatMap_cons, List.flatMap_cons,
          ih]
  unfold filledOf operandsOf at *
  rw [List.flatMap_append, hkept]
  split <;> rfl

/-- What the sum that a template is written as stands for. -/
theorem sum?_summed {segments : List Segment}
    (names : ∀ n, .placeholder n ∈ segments → Text.isBindable n = true) (level : Nat) :
    Reading.sum? value (expr .summed level (templateOf segments))
      = if segments.all isReadable then some (String.ofList (filledOf value segments))
        else none := by
  have hnames : ∀ n, .placeholder n ∈ operandsOf segments → Text.isBindable n = true := by
    intro n hn
    rcases List.mem_append.mp hn with hn | hn
    · split at hn <;> simp at hn
    · exact names n (List.mem_filter.mp hn).1
  rw [expr_summed, sum?_writeSum value hnames, all_isReadable_operandsOf, filledOf_operandsOf]

/-! ## Agreement -/

theorem flatMap_filled_unitsOf (segments : List Segment) :
    (unitsOf segments).flatMap (TemplateUnit.filled value) = filledOf value segments := by
  unfold unitsOf filledOf
  rw [List.flatMap_assoc]
  congr 1
  funext s
  cases s with
  | literal text => simp [ofSegment, Segment.filled, List.flatMap_map, TemplateUnit.filled]
  | placeholder n => simp [ofSegment, Segment.filled, TemplateUnit.filled]

/-- Without carriage returns in its text a template stands for what it is meant to. -/
theorem unified_eq_filled {us : List TemplateUnit} (h : .char '\r' ∉ us) :
    unified value false us = us.flatMap (TemplateUnit.filled value) := by
  induction us with
  | nil => rfl
  | cons u us ih =>
    rw [List.mem_cons, not_or] at h
    cases u with
    | name n => rw [unified, ih h.2, List.flatMap_cons, TemplateUnit.filled]
    | char c =>
      have hc : c ≠ '\r' := by
        rintro rfl
        exact h.1 rfl
      simp [unified, hc, ih h.2, List.flatMap_cons, TemplateUnit.filled]

/-- Every carriage return in the text of a template is lost, and none in a value. -/
theorem count_unified (afterReturn : Bool) (us : List TemplateUnit) :
    (unified value afterReturn us).count '\r' + us.count (.char '\r')
      = (us.flatMap (TemplateUnit.filled value)).count '\r' := by
  induction us generalizing afterReturn with
  | nil => rfl
  | cons u us ih =>
    rw [List.flatMap_cons, List.count_append, List.count_cons]
    cases u with
    | name n =>
      rw [unified, List.count_append, ← ih false]
      simp [TemplateUnit.filled]
      omega
    | char c =>
      -- A carriage return becomes a line feed, and a line feed behind one is dropped.
      by_cases hreturn : c = '\r'
      · subst hreturn
        rw [← ih true]
        simp [unified, TemplateUnit.filled]
        omega
      · by_cases hdropped : c = '\n' ∧ afterReturn = true
        · obtain ⟨rfl, rfl⟩ := hdropped
          rw [← ih false]
          simp [unified, TemplateUnit.filled]
        · rw [← ih false]
          simp [unified, TemplateUnit.filled, hreturn, hdropped]

theorem mem_unitsOf_char {segments : List Segment} {c : Char} :
    .char c ∈ unitsOf segments ↔ ∃ text, .literal text ∈ segments ∧ c ∈ text.toList := by
  rw [unitsOf, List.mem_flatMap]
  constructor
  · rintro ⟨segment, hsegment, hc⟩
    cases segment with
    | literal text => exact ⟨text, hsegment, by simpa [ofSegment] using hc⟩
    | placeholder n => simp [ofSegment] at hc
  · rintro ⟨text, htext, hc⟩
    exact ⟨.literal text, htext, by simpa [ofSegment] using hc⟩

theorem all_isReadable_iff {segments : List Segment} :
    segments.all isReadable = true
      ↔ ∀ text, .literal text ∈ segments → ∀ c ∈ text.toList, isSeparator c = false := by
  rw [List.all_eq_true]
  constructor
  · intro h text htext c hc
    have hreadable := h (.literal text) htext
    rw [isReadable, Bool.not_eq_true', List.any_eq_false] at hreadable
    simpa using hreadable c hc
  · intro h segment hsegment
    cases segment with
    | placeholder n => rfl
    | literal text =>
      rw [isReadable, Bool.not_eq_true', List.any_eq_false]
      intro c hc
      simpa using h text hsegment c hc

/-- A carriage return is lost when line ends are read as one. -/
theorem unified_ne_filledOf {segments : List Segment} (h : .char '\r' ∈ unitsOf segments) :
    unified value false (unitsOf segments) ≠ filledOf value segments := by
  intro hsame
  have hcount := count_unified value false (unitsOf segments)
  rw [flatMap_filled_unitsOf, hsame] at hcount
  have hpositive := List.count_pos_iff.mpr h
  omega

/-- **Agreement of the styles**: a template of text and names is well-formed in both styles and
    stands for the same text in both, whatever the values of its names, exactly if its text has no
    carriage return, no line separator and no paragraph separator. -/
theorem stylesAgree_iff {segments : List Segment}
    (names : ∀ n, .placeholder n ∈ segments → Text.isBindable n = true) (level level' : Nat) :
    (∃ text, Reading.template? value (expr .backquoted level (templateOf segments)) = some text
      ∧ Reading.sum? value (expr .summed level' (templateOf segments)) = some text)
      ↔ ∀ text, .literal text ∈ segments →
          ∀ c ∈ text.toList, c ≠ '\r' ∧ c ≠ '\u2028' ∧ c ≠ '\u2029' := by
  have hbackquoted := template?_backquoted value names level
  have hsummed := sum?_summed value names level'
  constructor
  · rintro ⟨text, htemplate, hsum⟩ literal hliteral c hc
    rw [hbackquoted] at htemplate
    rw [hsummed] at hsum
    split at hsum
    · next hreadable =>
      -- The sum is read, so it has no separator; a carriage return would make the texts differ.
      have hseparator := all_isReadable_iff.mp hreadable literal hliteral c hc
      have hreturn : c ≠ '\r' := by
        rintro rfl
        have hsame : unified value false (unitsOf segments) = filledOf value segments :=
          String.ofList_inj.mp (Option.some.inj (htemplate.trans hsum.symm))
        exact unified_ne_filledOf value (mem_unitsOf_char.mpr ⟨literal, hliteral, hc⟩) hsame
      simp only [isSeparator, Bool.or_eq_false_iff, decide_eq_false_iff_not] at hseparator
      exact ⟨hreturn, hseparator⟩
    · cases hsum
  · intro h
    -- Without these characters both readings end with the text that is meant.
    have hreadable : segments.all isReadable = true := by
      rw [all_isReadable_iff]
      intro text htext c hc
      obtain ⟨_, hline, hparagraph⟩ := h text htext c hc
      simp [isSeparator, hline, hparagraph]
    have hreturn : .char '\r' ∉ unitsOf segments := by
      intro hmem
      obtain ⟨text, htext, hc⟩ := mem_unitsOf_char.mp hmem
      exact (h text htext '\r' hc).1 rfl
    refine ⟨String.ofList (filledOf value segments), ?_, ?_⟩
    · rw [hbackquoted, unified_eq_filled value hreturn, flatMap_filled_unitsOf]
    · rw [hsummed, if_pos hreadable]

/-- A template that begins with a name and has every character with an escape, one of them at the
    end of a text that goes on behind it. -/
def awkwardTemplate : List Segment :=
  [.placeholder "$a", .literal "it's \x60\\\t$", .literal "\x7b\n", .literal "", .placeholder "b"]

theorem stylesAgree_awkwardTemplate :
    (∀ n, .placeholder n ∈ awkwardTemplate → Text.isBindable n = true)
      ∧ ∃ text,
        Reading.template? id (expr .backquoted 1 (templateOf awkwardTemplate)) = some text
        ∧ Reading.sum? id (expr .summed 1 (templateOf awkwardTemplate)) = some text := by
  have names : ∀ n, .placeholder n ∈ awkwardTemplate → Text.isBindable n = true := by
    intro n hn
    simp only [awkwardTemplate, List.mem_cons, Segment.placeholder.injEq, reduceCtorEq, false_or,
      List.not_mem_nil, or_false] at hn
    rcases hn with rfl | rfl <;> decide
  refine ⟨names, (stylesAgree_iff id names 1 1).mpr ?_⟩
  simp [awkwardTemplate]

/-- A carriage return in a path becomes a line feed between backquotes and stays in the sum; a line
    separator leaves the sum unread. -/
theorem stylesDisagree_lineEnds :
    Reading.template? id (expr .backquoted 1 (templateOf (PathTemplate.segments "/a\rb")))
        = some "/a\nb"
      ∧ Reading.sum? id (expr .summed 1 (templateOf (PathTemplate.segments "/a\rb")))
        = some "/a\rb"
      ∧ Reading.sum? id (expr .summed 1 (templateOf (PathTemplate.segments "/a\u2028b")))
        = none := by
  have hreturn : PathTemplate.segments "/a\rb" = [.literal "/a\rb"] := by decide
  have hseparator : PathTemplate.segments "/a\u2028b" = [.literal "/a\u2028b"] := by decide
  rw [hreturn, hseparator, template?_backquoted id (by simp), sum?_summed id (by simp),
    sum?_summed id (by simp)]
  decide

end ClientGen.Layout
