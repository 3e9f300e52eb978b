import Mathlib.Data.List.Chain
import ClientGen.Proofs.PathTemplate.Filling

/-! # Paths and their segments

  A path is cut at its braces, and the braces are lost. What else is lost depends on how they stand:

  * **Any path** keeps its text, and every opening brace becomes a placeholder (`KeepsText`).
  * **A path whose braces alternate** can be written again from its segments, and no other path can
    (`write_segments_iff`).
  * **Segments that stay apart** when they are written, the normal ones, are cut again from what
    they are written as, and no others are (`segments_write_iff`).

  The last two come from one fact: the paths whose braces alternate are those that normal segments
  are written as (`exists_isNormal`).

  Cutting needs to see each character only once, with the text since the last brace in hand
  (`scan_eq_segments`). -/

namespace ClientGen

def Segment.isPlaceholder : Segment → Bool
  | .literal _ => false
  | .placeholder _ => true

namespace PathTemplate

variable {path : String} {pieces : List Segment}

/-! ## What any path keeps -/

/-- What the segments of a path keep of it. -/
structure KeepsText (path : String) (pieces : List Segment) : Prop where
  /-- Their texts, one after the other, are the path without its braces. -/
  texts : String.join (pieces.map Segment.text)
    = String.ofList (path.toList.filter fun c => !isBrace c)
  no_braces : ∀ s ∈ pieces, ∀ c ∈ s.text.toList, isBrace c = false
  no_empty_literal : .literal "" ∉ pieces
  /-- There are as many placeholders as opening braces. -/
  placeholders : pieces.countP Segment.isPlaceholder = path.toList.count openBrace

theorem join_cutAtBraces (path : List Char) :
    (cutAtBraces path).1 ++ (cutAtBraces path).2.flatMap Prod.snd
      = path.filter fun c => !isBrace c := by
  induction path with
  | nil => rfl
  | cons c rest ih =>
    cases hc : isBrace c with
    | true => simpa [cutAtBraces, hc] using ih
    | false => simpa [cutAtBraces, hc] using ih

theorem map_fst_cutAtBraces (path : List Char) :
    (cutAtBraces path).2.map Prod.fst = path.filter isBrace := by
  induction path with
  | nil => rfl
  | cons c rest ih =>
    cases hc : isBrace c with
    | true => simpa [cutAtBraces, hc] using ih
    | false => simpa [cutAtBraces, hc] using ih

/-- A text is what stands for its segment when every name stands for itself. -/
theorem filled_id : Segment.filled id = Segment.text := by
  funext s
  cases s <;> rfl

theorem join_texts (path : String) :
    String.join ((segments path).map Segment.text)
      = String.ofList (path.toList.filter fun c => !isBrace c) := by
  have hcut : filledCut id = Prod.snd := by
    funext cut
    simp [filledCut]
  have hfilled := toList_filled id path
  rw [hcut, join_cutAtBraces, filled, filled_id] at hfilled
  rw [← hfilled, String.ofList_toList]

theorem literal_empty_not_mem (path : String) : .literal "" ∉ segments path := by
  have hliteral : ∀ text, .literal "" ∉ literalSegment text := by
    intro text
    cases text <;> simp [literalSegment, ← String.toList_inj]
  intro hmem
  rcases List.mem_append.mp hmem with hmem | hmem
  · exact hliteral _ hmem
  · obtain ⟨cut, _, hcut⟩ := List.mem_flatMap.mp hmem
    unfold segmentAfter at hcut
    split at hcut
    · simp at hcut
    · exact hliteral _ hcut

theorem countP_literalSegment (text : List Char) :
    (literalSegment text).countP Segment.isPlaceholder = 0 := by
  cases text <;> simp [literalSegment, Segment.isPlaceholder]

/-- Every cut at an opening brace leads to one placeholder. -/
theorem countP_segmentAfter (cuts : List (Char × List Char)) :
    (cuts.flatMap segmentAfter).countP Segment.isPlaceholder
      = (cuts.map Prod.fst).count openBrace := by
  induction cuts with
  | nil => rfl
  | cons cut rest ih =>
    rw [List.flatMap_cons, List.countP_append, ih, List.map_cons, List.count_cons, segmentAfter]
    by_cases hopen : cut.1 = openBrace
    · simp [hopen, Segment.isPlaceholder, Nat.add_comm]
    · simp [hopen, countP_literalSegment]

theorem countP_segments (path : String) :
    (segments path).countP Segment.isPlaceholder = path.toList.count openBrace := by
  have hopen : isBrace openBrace = true := rfl
  unfold segments
  rw [List.countP_append, countP_literalSegment, countP_segmentAfter, map_fst_cutAtBraces,
    List.count_filter hopen, Nat.zero_add]

theorem keepsText_segments (path : String) : KeepsText path (segments path) where
  texts := join_texts path
  no_braces := by
    intro s hs c hc
    -- The text is part of the path without its braces.
    have hmem : c ∈ (String.join ((segments path).map Segment.text)).toList := by
      rw [String.toList_join, List.flatMap_map]
      exact List.mem_flatMap.mpr ⟨s, hs, hc⟩
    rw [join_texts, String.toList_ofList] at hmem
    simpa using (List.mem_filter.mp hmem).2
  no_empty_literal := literal_empty_not_mem path
  placeholders := countP_segments path

/-! ## One pass -/

/-- The segment that ends at a brace or at the end of the path. -/
def flushed (inName : Bool) (text : List Char) : List Segment :=
  if inName then [.placeholder (String.ofList text)] else literalSegment text

/-- The segments of a path that is read character by character. `text` is what came since the last
    brace, and `inName` whether that brace was an opening one. -/
def scan (inName : Bool) (text : List Char) : List Char → List Segment
  | [] => flushed inName text
  | c :: rest =>
    if isBrace c then flushed inName text ++ scan (c = openBrace) [] rest
    else scan inName (text ++ [c]) rest

/-- What was read goes in front of the text up to the next brace. -/
theorem scan_eq (inName : Bool) (text path : List Char) :
    scan inName text path
      = flushed inName (text ++ (cutAtBraces path).1)
        ++ (cutAtBraces path).2.flatMap segmentAfter := by
  -- What stands in front of the next brace is in hand, so it is generalised.
  induction path generalizing inName text with
  | nil => simp [scan, cutAtBraces]
  | cons c rest ih =>
    cases hc : isBrace c with
    | true =>
      have hafter : ∀ next, flushed (decide (c = openBrace)) next = segmentAfter (c, next) := by
        intro next
        simp [flushed, segmentAfter]
      simp [scan, hc, ih, hafter, cutAtBraces_cons_brace hc]
    | false => simp [scan, hc, ih, cutAtBraces]

theorem scan_eq_segments (path : String) : scan false [] path.toList = segments path :=
  scan_eq false [] path.toList

/-! ## Segments that stay apart -/

/-- Segments that stay apart when they are written one after the other. -/
structure IsNormal (pieces : List Segment) : Prop where
  no_empty_literal : .literal "" ∉ pieces
  /-- No two literals stand side by side. -/
  no_adjacent_literals : pieces.IsChain fun a b => a.isPlaceholder || b.isPlaceholder
  no_braces : ∀ s ∈ pieces, ∀ c ∈ s.text.toList, isBrace c = false

theorem isNormal_nil : IsNormal [] := ⟨by simp, .nil, by simp⟩

theorem isNormal_placeholder_iff {name : String} :
    IsNormal (.placeholder name :: pieces)
      ↔ (∀ c ∈ name.toList, isBrace c = false) ∧ IsNormal pieces := by
  constructor
  · rintro ⟨hempty, hchain, hbraces⟩
    rw [List.forall_mem_cons] at hbraces
    exact ⟨hbraces.1, fun h => hempty (List.mem_cons_of_mem _ h), (List.isChain_cons.mp hchain).2,
      hbraces.2⟩
  · rintro ⟨hname, hempty, hchain, hbraces⟩
    refine ⟨by simpa using hempty, List.isChain_cons.mpr ⟨fun _ _ => rfl, hchain⟩, ?_⟩
    rw [List.forall_mem_cons]
    exact ⟨hname, hbraces⟩

theorem isNormal_literal_iff {text : String} :
    IsNormal (.literal text :: pieces)
      ↔ text ≠ "" ∧ (∀ c ∈ text.toList, isBrace c = false)
        ∧ (∀ s ∈ pieces.head?, s.isPlaceholder = true) ∧ IsNormal pieces := by
  constructor
  · rintro ⟨hempty, hchain, hbraces⟩
    rw [List.mem_cons, not_or] at hempty
    rw [List.isChain_cons] at hchain
    rw [List.forall_mem_cons] at hbraces
    refine ⟨?_, hbraces.1, hchain.1, hempty.2, hchain.2, hbraces.2⟩
    rintro rfl
    exact hempty.1 rfl
  · rintro ⟨htext, hfree, hhead, hempty, hchain, hbraces⟩
    refine ⟨?_, List.isChain_cons.mpr ⟨hhead, hchain⟩, ?_⟩
    · rw [List.mem_cons, not_or]
      exact ⟨fun h => htext (Segment.literal.inj h).symm, hempty⟩
    · rw [List.forall_mem_cons]
      exact ⟨hfree, hbraces⟩

/-! ## Writing and cutting -/

def writtenChars (pieces : List Segment) : List Char := pieces.flatMap writtenSegment

theorem toList_write (pieces : List Segment) : (write pieces).toList = writtenChars pieces :=
  String.toList_ofList

def segmentsOf (path : List Char) : List Segment :=
  literalSegment (cutAtBraces path).1 ++ (cutAtBraces path).2.flatMap segmentAfter

theorem segments_eq (path : String) : segments path = segmentsOf path.toList := rfl

theorem segmentsOf_placeholder {name : List Char} (h : ∀ c ∈ name, isBrace c = false)
    (rest : List Char) :
    segmentsOf (openBrace :: (name ++ closeBrace :: rest))
      = .placeholder (String.ofList name) :: segmentsOf rest := by
  have hclose : closeBrace ≠ openBrace := by decide
  unfold segmentsOf
  -- The name is what stands between the two cuts.
  rw [cutAtBraces_cons_brace rfl, cutAtBraces_append h, cutAtBraces_cons_brace rfl]
  simp [literalSegment, segmentAfter, hclose]

theorem segmentsOf_literal {text : List Char} (h : ∀ c ∈ text, isBrace c = false)
    (hnonempty : text ≠ []) {rest : List Char} (hrest : ∀ c ∈ rest.head?, isBrace c = true) :
    segmentsOf (text ++ rest) = .literal (String.ofList text) :: segmentsOf rest := by
  have hbehind : (cutAtBraces rest).1 = [] := by
    cases rest with
    | nil => rfl
    | cons c rest => rw [cutAtBraces_cons_brace (hrest c rfl)]
  unfold segmentsOf
  rw [cutAtBraces_append h, hbehind]
  simp [literalSegment, hnonempty]

/-- Normal segments are cut from what they are written as. -/
theorem segmentsOf_writtenChars (h : IsNormal pieces) :
    segmentsOf (writtenChars pieces) = pieces := by
  induction pieces with
  | nil => rfl
  | cons s rest ih =>
    cases s with
    | placeholder name =>
      obtain ⟨hname, hrest⟩ := isNormal_placeholder_iff.mp h
      have hcut := segmentsOf_placeholder hname (writtenChars rest)
      rw [ih hrest, String.ofList_toList] at hcut
      simpa [writtenChars, writtenSegment] using hcut
    | literal text =>
      obtain ⟨htext, hfree, hhead, hrest⟩ := isNormal_literal_iff.mp h
      -- What follows a literal is a placeholder, and that is written with a brace in front.
      have hbehind : ∀ c ∈ (writtenChars rest).head?, isBrace c = true := by
        intro c hc
        cases rest with
        | nil => cases hc
        | cons next later =>
          cases next with
          | literal other => cases hhead _ rfl
          | placeholder name =>
            obtain rfl : openBrace = c := by simpa [writtenChars, writtenSegment] using hc
            rfl
      have hnonempty : text.toList ≠ [] := by simpa using htext
      have hcut := segmentsOf_literal hfree hnonempty hbehind
      rw [ih hrest, String.ofList_toList] at hcut
      exact hcut

/-- A path whose braces alternate is what some normal segments are written as. -/
theorem exists_isNormal {path : List Char} (h : BracesAlternate path) :
    ∃ pieces, IsNormal pieces ∧ writtenChars pieces = path := by
  refine h.induct (motive := fun path => ∃ pieces, IsNormal pieces ∧ writtenChars pieces = path)
    ?text ?placeholder
  case text =>
    intro text hfree
    -- Text that is empty makes no segment.
    by_cases hempty : text = []
    · exact ⟨[], isNormal_nil, hempty.symm⟩
    · refine ⟨[.literal (String.ofList text)], isNormal_literal_iff.mpr ?_, ?_⟩
      · exact ⟨by simpa using hempty, by simpa using hfree, by simp, isNormal_nil⟩
      · simp [writtenChars, writtenSegment]
  case placeholder =>
    rintro text name _ hfree hname ⟨pieces, hpieces, rfl⟩
    have hlater : IsNormal (.placeholder (String.ofList name) :: pieces) :=
      isNormal_placeholder_iff.mpr ⟨by simpa using hname, hpieces⟩
    by_cases hempty : text = []
    · exact ⟨_, hlater, by simp [writtenChars, writtenSegment, hempty]⟩
    · refine ⟨.literal (String.ofList text) :: .placeholder (String.ofList name) :: pieces,
        isNormal_literal_iff.mpr ?_, by simp [writtenChars, writtenSegment]⟩
      exact ⟨by simpa using hempty, by simpa using hfree, by simp [Segment.isPlaceholder], hlater⟩

/-- Segments without braces in their texts are written with braces that alternate. -/
theorem bracesAlternate_writtenChars
    (h : ∀ s ∈ pieces, ∀ c ∈ s.text.toList, isBrace c = false) :
    BracesAlternate (writtenChars pieces) := by
  induction pieces with
  | nil => exact ⟨0, rfl⟩
  | cons s rest ih =>
    rw [List.forall_mem_cons] at h
    obtain ⟨n, hrest⟩ := ih h.2
    -- The texts have no braces, so those of the placeholders are the only ones.
    have hfree : s.text.toList.filter isBrace = [] := by
      rw [List.filter_eq_nil_iff]
      intro c hc
      simp [h.1 c hc]
    rw [writtenChars] at hrest
    cases s with
    | literal text =>
      rw [Segment.text] at hfree
      exact ⟨n, by simp [writtenChars, writtenSegment, hfree, hrest]⟩
    | placeholder name =>
      rw [Segment.text] at hfree
      have hbraces : isBrace openBrace = true ∧ isBrace closeBrace = true := ⟨rfl, rfl⟩
      refine ⟨n + 1, ?_⟩
      simp [writtenChars, writtenSegment, hfree, hrest, hbraces, List.replicate_succ]

theorem segments_write_iff : segments (write pieces) = pieces ↔ IsNormal pieces := by
  constructor
  · intro h
    have hkept := keepsText_segments (write pieces)
    rw [h] at hkept
    -- Some normal segments are written in the same way, so they are these.
    obtain ⟨others, hothers, hwritten⟩ :=
      exists_isNormal (bracesAlternate_writtenChars hkept.no_braces)
    have hcut := segmentsOf_writtenChars hothers
    rw [hwritten, ← toList_write, ← segments_eq, h] at hcut
    rwa [hcut]
  · intro h
    rw [segments_eq, toList_write]
    exact segmentsOf_writtenChars h

theorem write_segments_iff : write (segments path) = path ↔ BracesAlternate path.toList := by
  constructor
  · intro h
    rw [← h, toList_write]
    exact bracesAlternate_writtenChars (keepsText_segments path).no_braces
  · intro h
    -- The path is what normal segments are written as, and these are cut from it again.
    obtain ⟨pieces, hpieces, hwritten⟩ := exists_isNormal h
    have hpath : write pieces = path := by
      apply String.toList_inj.mp
      rw [toList_write, hwritten]
    rw [← hpath, segments_write_iff.mpr hpieces]

/-- **Faithful segments**: a path keeps its text when it is cut, and one placeholder for each
    opening brace. Segments are cut from what they are written as exactly if they are normal, and a
    path is what its segments are written as exactly if its braces alternate. -/
theorem segments_faithful :
    (∀ path, KeepsText path (segments path))
      ∧ (∀ pieces, segments (write pieces) = pieces ↔ IsNormal pieces)
      ∧ ∀ path, write (segments path) = path ↔ BracesAlternate path.toList :=
  ⟨keepsText_segments, fun _ => segments_write_iff, fun _ => write_segments_iff⟩

/-- A stray brace cuts a literal in two, and a brace that is never closed starts a placeholder. -/
example : segments "a\x7bb\x7d\x7b\x7dc\x7dd\x7b"
    = [.literal "a", .placeholder "b", .placeholder "", .literal "c", .literal "d",
        .placeholder ""] := by decide

end PathTemplate

end ClientGen
