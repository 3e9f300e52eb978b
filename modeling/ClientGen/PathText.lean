/-! # Paths as texts

  What the text of a file path says without a look at the disk: the name of the file, its
  extension, and the directory that holds it. Slashes separate; repeated slashes and lone dots lead
  nowhere. -/

namespace ClientGen.PathText

/-- The text before the first slash, and the texts behind each slash. -/
def cutAtSlashes : List Char → List Char × List (List Char)
  | [] => ([], [])
  | c :: rest =>
    let (part, parts) := cutAtSlashes rest
    if c = '/' then ([], part :: parts) else (c :: part, parts)

def parts (path : String) : List String :=
  let (first, later) := cutAtSlashes path.toList
  (first :: later).map String.ofList

/-- Whether a part of a path leads nowhere. -/
def isIdle (part : String) : Bool := part = "" || part = "."

/-- The name of the file that a path leads to; none if it leads upwards or nowhere. -/
def fileName? (path : String) : Option String :=
  match ((parts path).filter fun part => !isIdle part).getLast? with
  | none => none
  | some name => if name = ".." then none else some name

/-- The characters after the last dot of a file name, if there is a dot after its first
    character. -/
def extensionOf? (name : List Char) : Option (List Char) :=
  match name.reverse.dropWhile (· ≠ '.') with
  | '.' :: _ :: _ => some (name.reverse.takeWhile (· ≠ '.')).reverse
  | _ => none

/-- The extension of the file that a path leads to. -/
def extension? (path : String) : Option String :=
  ((fileName? path).bind fun name => extensionOf? name.toList).map String.ofList

/-- The parts that are left when those at the end that lead nowhere are dropped. The first part
    stays. -/
def dropIdleEnd : List String → List String
  | [] => []
  | first :: rest => first :: (rest.reverse.dropWhile isIdle).reverse

/-- The directory that holds the file that a path leads to. -/
def parent (path : String) : String :=
  match dropIdleEnd (parts path).dropLast with
  -- A slash that nothing stands in front of is the root.
  | [""] => "/"
  | kept => "/".intercalate kept

def below (directory path : String) : String :=
  if directory = "" then path
  else if directory.toList.getLast? = some '/' then directory ++ path
  else directory ++ "/" ++ path

end ClientGen.PathText
