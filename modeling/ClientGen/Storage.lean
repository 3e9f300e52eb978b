import ClientGen.Disk
import ClientGen.OrderedMap

/-! # Storage

  A disk as a value: a tree of directories and files. A path is followed name by name from the root,
  and the directories on the way are kept, so that a step upwards leads back to the directory that
  the step before it came from.

  * **`Walk`** is a directory seen from inside, together with everything around it.
  * **`Medium`** is what a disk lets happen: rights may be missing, and room.
  * **`Target`** is what a path leads to: a directory, or a name in one.
  * **`Storage.disk`** carries out the operations of a disk on such a value. -/

namespace ClientGen

/-- What lies under a name. -/
inductive StorageEntry where
  | file (content : ByteArray)
  | directory (entries : List (String × StorageEntry))

/-- A directory of a disk, with everything around it. -/
structure Walk where
  here : List (String × StorageEntry)
  /-- The directories around it, innermost first: the name of the step that led inwards, and the
      entries beside which it lies. -/
  around : List (String × List (String × StorageEntry)) := []

/-- How much of a file a disk takes. -/
inductive Intake where
  | whole
  /-- The first octets of the file, and then no more. -/
  | part (octets : Nat)
  /-- The file cannot even be opened; what lay there stays. -/
  | nothing

/-- What a disk lets happen under a name in a directory. Everything on the disk is known where this
    is decided, so a disk may also run out of room. -/
structure Medium where
  mayRead : Walk → String → Bool := fun _ _ => true
  mayMake : Walk → String → Bool := fun _ _ => true
  takes : Walk → String → ByteArray → Intake := fun _ _ _ => .whole

/-- A disk. Its root is a directory. -/
structure Storage where
  entries : List (String × StorageEntry) := []
  medium : Medium := {}

/-- What a path leads to. -/
inductive Target where
  | directory (w : Walk)
  /-- A name in a directory, under which a file or nothing lies. -/
  | name (w : Walk) (name : String)

/-- Whether a name can be given to a file or directory: it has at most 255 octets. -/
def Storage.isName (name : String) : Bool := name.utf8ByteSize ≤ 255

/-- Whether a path can be followed at all: it has at most 4095 octets, and none of them is zero.
    This is looked at before the first step. -/
def Storage.isPath (path : String) : Bool :=
  path.utf8ByteSize ≤ 4095 && !path.toList.contains '\x00'

/-! ## Walks -/

namespace Walk

/-- A step into a directory that lies under a name, or is made there. -/
def enter (w : Walk) (name : String) (entries : List (String × StorageEntry)) : Walk :=
  ⟨entries, (name, w.here) :: w.around⟩

/-- A step upwards; at the root it leads nowhere. -/
def up (w : Walk) : Walk :=
  match w.around with
  | [] => w
  -- What was changed inside is put back under the name of the step that led in.
  | (name, outer) :: around => ⟨OrderedMap.put name (.directory w.here) outer, around⟩

/-- The entries of the root, when a directory with the given entries lies in the directories
    around it. -/
def rootFrom (here : List (String × StorageEntry)) :
    List (String × List (String × StorageEntry)) → List (String × StorageEntry)
  | [] => here
  | (name, outer) :: around => rootFrom (OrderedMap.put name (.directory here) outer) around

/-- What the parts of a path lead to. All steps but the last must lead to directories; at the last
    nothing needs to lie. -/
def follow (w : Walk) : List String → Option Target
  | [] => some (.directory w)
  | part :: rest =>
    if PathText.isIdle part then follow w rest
    else if part = ".." then follow w.up rest
    else
      match OrderedMap.find? part w.here with
      | some (.directory entries) => follow (w.enter part entries) rest
      -- A file may only be the end of a path.
      | some (.file _) => if rest.isEmpty then some (.name w part) else none
      | none => if rest.isEmpty && Storage.isName part then some (.name w part) else none

/-- Follows the parts of a path and makes each directory that is not there; tells whether all steps
    can be taken. Directories that were made before a step that cannot be taken stay. -/
def make (medium : Medium) (w : Walk) : List String → Walk × Bool
  | [] => (w, true)
  | part :: rest =>
    if PathText.isIdle part then make medium w rest
    else if part = ".." then make medium w.up rest
    else
      match OrderedMap.find? part w.here with
      | some (.directory entries) => make medium (w.enter part entries) rest
      | some (.file _) => (w, false)
      | none =>
        if Storage.isName part && medium.mayMake w part then make medium (w.enter part []) rest
        else (w, false)

end Walk

namespace Storage

def root (st : Storage) : Walk := { here := st.entries }

/-- The disk that a walk on it has left behind. -/
def leftBy (st : Storage) (w : Walk) : Storage :=
  { st with entries := Walk.rootFrom w.here w.around }

/-! ## Reading -/

def target? (st : Storage) (path : String) : Option Target :=
  if isPath path then st.root.follow (PathText.parts path) else none

/-- What lies where a path leads to. -/
def lookup? (st : Storage) (path : String) : Option StorageEntry :=
  (st.target? path).bind fun
    | .directory w => some (.directory w.here)
    | .name w name => OrderedMap.find? name w.here

/-- The content of the file that a path leads to, if it may be read. -/
def read? (st : Storage) (path : String) : Option ByteArray :=
  match st.target? path with
  | some (.name w name) =>
    match OrderedMap.find? name w.here with
    | some (.file content) => if st.medium.mayRead w name then some content else none
    | _ => none
  | _ => none

mutual

/-- The files of a directory and of those in it, each with the names that lead to it. -/
def filesOf : List (String × StorageEntry) → List (List String × ByteArray)
  | [] => []
  | (name, entry) :: rest =>
    (filesIn entry).map (fun file => (name :: file.1, file.2)) ++ filesOf rest

def filesIn : StorageEntry → List (List String × ByteArray)
  | .file content => [([], content)]
  | .directory entries => filesOf entries

end

/-- The files below a directory, each with the names that lead to it from there. -/
def filesBelow (st : Storage) (path : String) : List (List String × ByteArray) :=
  match st.lookup? path with
  | some (.directory entries) => filesOf entries
  | _ => []

/-! ## Writing -/

/-- Makes a directory and every directory on the way to it; tells whether all are there. -/
def makeDirectories (st : Storage) (path : String) : Storage × Bool :=
  if isPath path then
    let (w, done) := st.root.make st.medium (PathText.parts path)
    (st.leftBy w, done)
  else (st, false)

/-- Stores a file in a directory that is there already; tells whether that was possible. A file of
    which the disk takes a part only is cut off there. -/
def putFile (st : Storage) (path : String) (content : ByteArray) : Storage × Bool :=
  match st.target? path with
  | some (.name w name) =>
    let put (stored : ByteArray) : Storage :=
      st.leftBy { w with here := OrderedMap.put name (.file stored) w.here }
    -- A file is opened, and so emptied, before anything is written: of a part nothing older is
    -- left.
    match st.medium.takes w name content with
    | .whole => (put content, true)
    | .part octets => (put (content.extract 0 octets), false)
    | .nothing => (st, false)
  | _ => (st, false)

/-- The operations of a disk, carried out on one that is a value. -/
def disk : Disk (StateM Storage) where
  isThere path := return ((← get).lookup? path).isSome
  isFile path := return match (← get).lookup? path with | some (.file _) => true | _ => false
  read? path := return (← get).read? path
  makeDirectories path := modifyGet fun st => (st.makeDirectories path).swap
  putFile path content := modifyGet fun st => (st.putFile path content).swap

/-- Writes a file, after the directories on the way to it. -/
def write (st : Storage) (path : String) (content : ByteArray) : Storage × Except WriteError Unit :=
  ((disk.write path content).run st).swap

end Storage

end ClientGen
