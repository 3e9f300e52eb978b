/-! # Bracketed entries

  How the entries of a list, an object or a record are laid out: between two brackets, one entry a
  line, each line indented by one level more than the brackets. -/

namespace ClientGen.Text

/-- The blanks in front of a line: two for each level. -/
def indent (level : Nat) : String := String.ofList (List.replicate (2 * level) ' ')

/-- Entries between two brackets, with a comma after all but the last. Without entries the brackets
    stand together. -/
def bracketed (opening closing : String) (level : Nat) (entries : List String) : String :=
  if entries.isEmpty then opening ++ closing
  else
    opening ++ "\n" ++ ",\n".intercalate (entries.map (indent (level + 1) ++ ·)) ++ "\n"
      ++ indent level ++ closing

end ClientGen.Text
