import ClientGen.Layout.Text
import ClientGen.Proofs.Reading.Listing

/-! # Bracketed entries as they are read

  What stands between the entries of an object or a record, character by character: a line end and
  blanks, and a comma in front of all but the first entry (`toList_bracketed_cons`). -/

namespace ClientGen.Layout

open Reading

/-- A line end and the blanks in front of the next line. -/
def lineGap (level : Nat) : List Char := '\n' :: List.replicate (2 * level) ' '

theorem isGap_space : IsGap [' '] := by simp [IsGap, isBlank]

theorem isGap_lineGap (level : Nat) : IsGap (lineGap level) := by
  intro c hc
  rcases List.mem_cons.mp hc with rfl | hc
  · decide
  · rw [List.eq_of_mem_replicate hc]
    decide

theorem toList_bracketed_cons (opening closing : String) (level : Nat) (t : String)
    (texts : List String) :
    (Text.bracketed opening closing level (t :: texts)).toList
      = opening.toList ++ (lineGap (level + 1)
          ++ List.intercalate (',' :: lineGap (level + 1)) ((t :: texts).map String.toList)
          ++ (lineGap level ++ closing.toList)) := by
  -- The blanks in front of an entry belong to what stands between it and the entry before.
  have hentries : ∀ (t : String) (texts : List String),
      (",\n".intercalate ((t :: texts).map (Text.indent (level + 1) ++ ·))).toList
        = List.replicate (2 * (level + 1)) ' '
          ++ List.intercalate (',' :: lineGap (level + 1)) ((t :: texts).map String.toList) := by
    intro t texts
    induction texts generalizing t with
    | nil => simp [Text.indent]
    | cons u texts ih =>
      rw [List.map_cons, List.map_cons, String.toList_intercalate, List.map_cons, List.map_cons,
        List.intercalate_cons_cons, ← List.map_cons, ← String.toList_intercalate, ← List.map_cons,
        ih u]
      simp [Text.indent, lineGap]
  have hnonempty : (t :: texts).isEmpty = false := rfl
  rw [Text.bracketed, hnonempty, if_neg (by decide)]
  simp only [String.toList_append, hentries]
  simp [lineGap, Text.indent]

end ClientGen.Layout
