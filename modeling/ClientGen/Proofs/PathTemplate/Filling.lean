import ClientGen.PathTemplate

/-! # Filled paths

  Two descriptions of the text that a path becomes when its placeholders are filled.

  * **`filled`** goes by segments: text stands for itself, a placeholder for the value of its name.
    Every path has segments, so every path is filled.
  * **`Filling`** goes by characters and knows nothing of segments: a name between two braces is
    replaced by its value, and every other character is kept. It says nothing about a path with
    a stray brace.

  `filling_iff` shows that they agree on the paths whose braces alternate. -/

namespace ClientGen

/-- The text that stands for a segment when placeholders are filled. -/
def Segment.filled (value : String → String) : Segment → String
  | .literal text => text
  | .placeholder name => value name

namespace PathTemplate

def filled (value : String → String) (path : String) : String :=
  String.join ((segments path).map (Segment.filled value))

/-- `Filling value path text` says that `text` is `path` with each name between braces replaced by
    its value. -/
inductive Filling (value : String → String) : List Char → List Char → Prop where
  | done : Filling value [] []
  /-- A character that is no brace is kept. -/
  | keep {c : Char} {path text : List Char} :
      isBrace c = false → Filling value path text → Filling value (c :: path) (c :: text)
  /-- A name between braces is replaced. -/
  | fill {name path text : List Char} :
      (∀ c ∈ name, isBrace c = false) → Filling value path text →
      Filling value (openBrace :: (name ++ closeBrace :: path))
        ((value (String.ofList name)).toList ++ text)

/-- The braces among some characters are an opening one, a closing one, and so on, and the last is
    a closing one. -/
def BracesAlternate (path : List Char) : Prop :=
  ∃ n, path.filter isBrace = (List.replicate n [openBrace, closeBrace]).flatten

/-- Induction on paths whose braces alternate: such a path has no braces, or it is some text, a name
    between braces, and a path whose braces alternate. -/
theorem BracesAlternate.induct {motive : List Char → Prop}
    (text : ∀ text : List Char, (∀ c ∈ text, isBrace c = false) → motive text)
    (placeholder : ∀ text name rest : List Char, (∀ c ∈ text, isBrace c = false) →
      (∀ c ∈ name, isBrace c = false) → motive rest →
      motive (text ++ openBrace :: (name ++ closeBrace :: rest)))
    {path : List Char} (h : BracesAlternate path) : motive path := by
  obtain ⟨n, hbraces⟩ := h
  induction n generalizing path with
  | zero => exact text path (by simpa using List.filter_eq_nil_iff.mp hbraces)
  | succ n ih =>
    rw [List.replicate_succ, List.flatten_cons, List.cons_append, List.cons_append,
      List.nil_append] at hbraces
    -- The first brace opens and the second closes: the name is what stands between them.
    obtain ⟨front, afterOpen, rfl, hfront, _, hclose⟩ := List.filter_eq_cons_iff.mp hbraces
    obtain ⟨name, rest, rfl, hname, _, hrest⟩ := List.filter_eq_cons_iff.mp hclose
    exact placeholder front name rest (by simpa using hfront) (by simpa using hname) (ih hrest)

/-! ## Cuts -/

theorem cutAtBraces_cons_brace {c : Char} (h : isBrace c = true) (path : List Char) :
    cutAtBraces (c :: path) = ([], (c, (cutAtBraces path).1) :: (cutAtBraces path).2) := by
  simp [cutAtBraces, h]

/-- Text without braces goes before the first cut. -/
theorem cutAtBraces_append {text : List Char} (h : ∀ c ∈ text, isBrace c = false)
    (path : List Char) :
    cutAtBraces (text ++ path) = (text ++ (cutAtBraces path).1, (cutAtBraces path).2) := by
  induction text with
  | nil => rfl
  | cons c rest ih =>
    have hc : isBrace c = false := h c (List.mem_cons_self ..)
    have hrest : ∀ d ∈ rest, isBrace d = false := fun d hd => h d (List.mem_cons_of_mem c hd)
    simp [cutAtBraces, hc, ih hrest]

/-- The text that stands for a brace and the characters after it. -/
def filledCut (value : String → String) (cut : Char × List Char) : List Char :=
  if cut.1 = openBrace then (value (String.ofList cut.2)).toList else cut.2

theorem toList_filled_literalSegment (value : String → String) (text : List Char) :
    ((literalSegment text).map (Segment.filled value)).flatMap String.toList = text := by
  unfold literalSegment
  cases text <;> simp [Segment.filled]

theorem toList_filled_segmentAfter (value : String → String) (cut : Char × List Char) :
    ((segmentAfter cut).map (Segment.filled value)).flatMap String.toList
      = filledCut value cut := by
  unfold segmentAfter filledCut
  split
  · simp [Segment.filled]
  · exact toList_filled_literalSegment value cut.2

theorem toList_filled (value : String → String) (path : String) :
    (filled value path).toList
      = (cutAtBraces path.toList).1 ++ (cutAtBraces path.toList).2.flatMap (filledCut value) := by
  unfold filled segments
  -- How the path was cut does not matter, only what each piece becomes.
  generalize cutAtBraces path.toList = cut
  obtain ⟨text, cuts⟩ := cut
  have hcuts : ((cuts.flatMap segmentAfter).map (Segment.filled value)).flatMap String.toList
      = cuts.flatMap (filledCut value) := by
    induction cuts with
    | nil => rfl
    | cons cut rest ih =>
      rw [List.flatMap_cons, List.map_append, List.flatMap_append, ih,
        toList_filled_segmentAfter, List.flatMap_cons]
  rw [String.toList_join, List.map_append, List.flatMap_append, toList_filled_literalSegment, hcuts]

/-! ## Agreement -/

/-- What is filled by characters is filled by segments. -/
theorem Filling.eq_filled {value : String → String} {path text : List Char}
    (h : Filling value path text) :
    text = (cutAtBraces path).1 ++ (cutAtBraces path).2.flatMap (filledCut value) := by
  induction h with
  | done => rfl
  | @keep c path text hc _ ih =>
    have hcut : cutAtBraces ([c] ++ path) = ([c] ++ (cutAtBraces path).1, (cutAtBraces path).2) :=
      cutAtBraces_append (by simpa using hc) path
    rw [List.singleton_append] at hcut
    rw [hcut, ih]
    rfl
  | @fill name path text hname _ ih =>
    -- The name stands after the first of two cuts, the text up to the next brace after the second.
    rw [cutAtBraces_cons_brace rfl, cutAtBraces_append hname, cutAtBraces_cons_brace rfl, ih]
    have hclose : closeBrace ≠ openBrace := by decide
    simp [filledCut, hclose]

theorem Filling.append {value : String → String} {text path filling : List Char}
    (htext : ∀ c ∈ text, isBrace c = false) (h : Filling value path filling) :
    Filling value (text ++ path) (text ++ filling) := by
  induction text with
  | nil => exact h
  | cons c rest ih =>
    exact .keep (htext c (List.mem_cons_self ..))
      (ih fun d hd => htext d (List.mem_cons_of_mem c hd))

/-- A path whose braces alternate is filled by characters. -/
theorem exists_filling (value : String → String) {path : List Char} (h : BracesAlternate path) :
    ∃ text, Filling value path text := by
  refine h.induct (motive := fun path => ∃ text, Filling value path text) ?text ?placeholder
  case text =>
    intro text htext
    exact ⟨text ++ [], by simpa using Filling.append htext .done⟩
  case placeholder =>
    rintro text name rest htext hname ⟨filling, hfilling⟩
    exact ⟨_, .append htext (.fill hname hfilling)⟩

/-- Where braces alternate, filling by characters and by segments is the same. -/
theorem filling_iff {value : String → String} {path : String} {text : List Char}
    (h : BracesAlternate path.toList) :
    Filling value path.toList text ↔ text = (filled value path).toList := by
  rw [toList_filled]
  constructor
  · exact Filling.eq_filled
  · rintro rfl
    obtain ⟨text, hfilling⟩ := exists_filling value h
    rw [← hfilling.eq_filled]
    exact hfilling

end PathTemplate

end ClientGen
