import ClientGen.Text.CodeRange

/-! # Blanks

  Package names and build numbers are trimmed of every character with the Unicode property
  White_Space, which is more than the four blanks of ASCII. -/

namespace ClientGen.Text

/-- The code points with the property White_Space. -/
def blankRanges : List CodeRange :=
  [⟨0x9, 0xd⟩, ⟨0x20, 0x20⟩, ⟨0x85, 0x85⟩, ⟨0xa0, 0xa0⟩, ⟨0x1680, 0x1680⟩, ⟨0x2000, 0x200a⟩,
    ⟨0x2028, 0x2029⟩, ⟨0x202f, 0x202f⟩, ⟨0x205f, 0x205f⟩, ⟨0x3000, 0x3000⟩]

def isBlank (c : Char) : Bool := memRanges blankRanges c

/-- A list of characters without the blanks at its front. -/
def dropBlanks (cs : List Char) : List Char := cs.dropWhile isBlank

/-- A text without the blanks at both ends. -/
def trim (s : String) : String :=
  String.ofList (dropBlanks (dropBlanks s.toList).reverse).reverse

/-- Whether a text holds nothing but blanks. -/
def isAllBlank (s : String) : Bool := s.toList.all isBlank

end ClientGen.Text
