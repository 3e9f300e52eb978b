import Mathlib.Logic.Function.Basic
import ClientGen.Proofs.Reading.Listing

/-! # Quoted texts and keys

  Texts of a document stand between single quotes in the sources, and so do keys that are no
  identifiers. A text that ended its literal early would become part of the program.

  * **Reading back**: whatever follows a quoted text, the literal that begins with its first
    character ends with its last one and stands for the text (`literal?_quote`).
  * **Keys are kept apart**: a key reads back as its name, so no two names have one key
    (`keyText_injective`), and a quoted key begins as no bare one does. -/

namespace ClientGen.Reading

/-! ## Literals -/

/-- The characters that cannot stand in a quoted literal as they are. -/
def breaksLiteral (c : Char) : Bool := c = '\n' || c = '\r'

/-- The text of the quoted literal that comes first, and what follows its closing quote. -/
def literal? : List Char → Option (String × List Char)
  | [] => none
  | c :: rest =>
    if c = '\x27' then
      ((quotedForm breaksLiteral).body? rest).map fun read => (String.ofList read.1, read.2)
    else none

/-- Quoting writes no character as it is that breaks a literal. -/
theorem breaksLiteral_of_quoteChar_eq {c : Char} (h : Layout.quoteChar c = [c]) :
    breaksLiteral c = false := by
  obtain ⟨_, _, hfeed, hreturn, _⟩ := quoteChar_eq_self_iff.mp h
  simp [breaksLiteral, hfeed, hreturn]

/-- A quoted text is a literal that stands for the text. -/
theorem literal?_quote (s : String) (rest : List Char) :
    literal? ((Layout.quote s).toList ++ rest) = some (s, rest) := by
  have hbody : (quotedForm breaksLiteral).body?
      (s.toList.flatMap Layout.quoteChar ++ '\x27' :: rest) = some (s.toList, rest) :=
    quotedForm_quote (fun c _ hself => breaksLiteral_of_quoteChar_eq hself) rest
  rw [toList_quote_append, literal?, if_pos rfl, hbody, Option.map_some, String.ofList_toList]

end ClientGen.Reading

namespace ClientGen.Layout

/-! ## Keys -/

/-- No identifier begins with a quote. -/
theorem ne_quote_of_isIdentifier {name : String} (h : Text.isIdentifier name = true)
    (s : String) : name ≠ quote s := by
  rintro rfl
  obtain ⟨c, cs, hcs, hstart, _⟩ := Reading.isIdentifier_cons h
  obtain ⟨rfl, _⟩ := List.cons.inj (hcs.symm.trans (Reading.toList_quote s))
  exact absurd hstart (by decide)

/-- A key is read as the name that it was written for, so it was written for one name. -/
theorem keyText_injective : Function.Injective keyText := by
  -- A key is read back from its text.
  have hread : ∀ name, Reading.key? (keyText name).toList = some (name, []) := by
    intro name
    have hend : ∀ c ∈ ([] : List Char).head?, Text.isIdentifierPart c = false := by simp
    have hkey := Reading.key?_gap Reading.isGap_nil name hend
    rwa [List.nil_append, List.append_nil] at hkey
  intro a b h
  have hsame : some (a, ([] : List Char)) = some (b, []) := by
    rw [← hread a, h, hread b]
  exact (Prod.mk.inj (Option.some.inj hsame)).1

/-- **Quoting is faithful**: a quoted text reads back as itself, and reading stops at its last
    character, wherever the text stands. Keys are as different as the names that they are written
    for, and no bare key is a quoted one. -/
theorem quoting_faithful :
    (∀ (s : String) (rest : List Char),
        Reading.literal? ((quote s).toList ++ rest) = some (s, rest))
      ∧ Function.Injective keyText
      ∧ ∀ bare s, Text.isIdentifier bare = true → bare ≠ quote s :=
  ⟨Reading.literal?_quote, keyText_injective, fun _ s h => ne_quote_of_isIdentifier h s⟩

/-- A text with a quote, a line break and a backslash, in front of another quote. -/
example : quote "it's\n\\" = "'it\\'s\\n\\\\'"
    ∧ Reading.literal? "'it\\'s\\n\\\\''".toList = some ("it's\n\\", ['\x27']) := by
  cbv

end ClientGen.Layout
