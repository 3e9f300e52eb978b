import ClientGen.Proofs.Reading.Listing
import ClientGen.Proofs.TypeTerm.Plain

/-! # Types as they are read

  A reader of types, which does not know how the sources are laid out: blanks may stand anywhere
  between the parts.

  * **A word** is a type that has a word of its own, or else a link.
  * **A list** is the word `Array` with a type between angle brackets behind it.
  * **A record** stands between braces with bars inside them. A field is a key, a question mark if
    the field may be missing, a colon and a type. -/

namespace ClientGen.Reading

def typeOfWord (word : String) : TypeTerm :=
  (OrderedMap.find? word TypeTerm.wordedTypes).getD (.named word)

mutual

def type? (cs : List Char) : Option (TypeTerm × List Char) :=
  behind '\x7b' cs
    (onward cs (word? cs) fun later _ word =>
      behind '<' later (some (typeOfWord word, later)) fun inside _ =>
        if word = "Array" then
          onward inside (type? inside) fun later _ element =>
            (mark? '>' later).map fun rest => (.array element, rest)
        else none)
    fun inside _ =>
      behind '|' inside none fun inside _ =>
        onward inside (listed? '|' (fun cs _ => field? cs) inside (Nat.le_refl _))
          fun later _ fields => (mark? '\x7d' later).map fun rest => (.record fields, rest)
termination_by 2 * cs.length

def field? (cs : List Char) : Option (Field × List Char) :=
  onward cs (key? cs) fun later _ key =>
    behind '?' later
      ((annotation? later).map fun read => (⟨key, read.1, false⟩, read.2))
      fun later _ => (annotation? later).map fun read => (⟨key, read.1, true⟩, read.2)
termination_by 2 * cs.length

def annotation? (cs : List Char) : Option (TypeTerm × List Char) :=
  behind ':' cs none fun rest _ => type? rest
termination_by 2 * cs.length

end

theorem typeOfWord_link {name : String} (h : name ∉ OrderedMap.keys TypeTerm.wordedTypes) :
    typeOfWord name = .named name := by
  rw [typeOfWord, OrderedMap.find?_eq_none_iff.mpr h, Option.getD_none]

/-! ## Steps -/

section

variable {cs inside later rest : List Char}

theorem type?_word {word : String} (hbrace : mark? '\x7b' cs = none)
    (hword : word? cs = some (word, later)) (hlater : later.length < cs.length)
    (hangle : mark? '<' later = none) : type? cs = some (typeOfWord word, later) := by
  rw [type?, behind_of_none hbrace, onward_eq hword hlater, behind_of_none hangle]

theorem type?_list {behindWord : List Char} {element : TypeTerm}
    (hbrace : mark? '\x7b' cs = none) (hword : word? cs = some ("Array", behindWord))
    (hbehind : behindWord.length < cs.length) (hangle : mark? '<' behindWord = some inside)
    (hread : type? inside = some (element, later)) (hlater : later.length < inside.length)
    (hclosing : mark? '>' later = some rest) : type? cs = some (.array element, rest) := by
  rw [type?, behind_of_none hbrace, onward_eq hword hbehind, behind_of_some hangle, if_pos rfl,
    onward_eq hread hlater, hclosing]
  rfl

theorem type?_record {behindBrace : List Char} {fields : List Field}
    (hbrace : mark? '\x7b' cs = some behindBrace) (hbar : mark? '|' behindBrace = some inside)
    (hread : listed? '|' (fun cs _ => field? cs) inside (Nat.le_refl _) = some (fields, later))
    (hlater : later.length < inside.length) (hclosing : mark? '\x7d' later = some rest) :
    type? cs = some (.record fields, rest) := by
  rw [type?, behind_of_some hbrace, behind_of_some hbar, onward_eq hread hlater, hclosing]
  rfl

theorem annotation?_eq (hcolon : mark? ':' cs = some rest) : annotation? cs = type? rest := by
  rw [annotation?, behind_of_some hcolon]

theorem field?_required {key : String} (hkey : key? cs = some (key, later))
    (hlater : later.length < cs.length) (hmark : mark? '?' later = none) :
    field? cs = (annotation? later).map fun read => (⟨key, read.1, false⟩, read.2) := by
  rw [field?, onward_eq hkey hlater, behind_of_none hmark]

theorem field?_optional {key : String} (hkey : key? cs = some (key, later))
    (hlater : later.length < cs.length) (hmark : mark? '?' later = some rest) :
    field? cs = (annotation? rest).map fun read => (⟨key, read.1, true⟩, read.2) := by
  rw [field?, onward_eq hkey hlater, behind_of_some hmark]

end

end ClientGen.Reading
