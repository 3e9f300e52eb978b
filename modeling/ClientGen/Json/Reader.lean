import ClientGen.Json.Token

/-! # Reading JSON

  A JSON text is read by a machine that takes one token at a time and holds the lists and objects
  that are still open. Reading fails on anything outside the grammar, and on lists and objects
  nested deeper than `depthLimit`. -/

namespace ClientGen.Json

namespace Reader

/-- A list or object that is still open. Its entries are held last one first. -/
inductive Frame where
  | array (items : List Json)
  /-- An object, with the key whose value is being read. -/
  | object (members : List (String × Json)) (key : String)

/-- What may come next. -/
inductive Expect where
  | value
  /-- The first item of a list, or its end. -/
  | itemOrEnd
  | keyOrEnd
  | key
  | colon (key : String)
  /-- The mark after an entry, or the end of what it is an entry of. -/
  | commaOrEnd
  /-- Nothing: the value is complete. -/
  | nothing (result : Json)

/-- The state of the machine. In the modes about a key the members of the object are in `members`,
    not on the stack. -/
structure State where
  /-- The lists and objects around the place, innermost first. -/
  stack : List Frame
  /-- The members so far of the object whose key is due. -/
  members : List (String × Json)
  expect : Expect

/-- The greatest number of lists and objects that may be open at once. -/
def depthLimit : Nat := 127

def close (stack : List Frame) (v : Json) : State :=
  match stack with
  | [] => ⟨[], [], .nothing v⟩
  | .array items :: rest => ⟨.array (v :: items) :: rest, [], .commaOrEnd⟩
  -- rest =>
  | .object members key :: rest => ⟨.object ((key, v) :: members) key :: rest, [], .commaOrEnd⟩

/-- The state where a value begins with the given token. -/
def openValue (stack : List Frame) (t : Token) : Option State :=
  match t with
  | .text s => some (close stack (.string s))
  | .atom v => some (close stack v)
  | .openArray =>
    if stack.length < depthLimit then some ⟨.array [] :: stack, [], .itemOrEnd⟩ else none
  | .openObject =>
    if stack.length < depthLimit then some ⟨stack, [], .keyOrEnd⟩ else none
  | _ => none

/-- The object of members that were collected last one first. -/
def objectOf (members : List (String × Json)) : Json :=
  .object (OrderedMap.ofEntries members.reverse)

/-- Takes one token. -/
def step (s : State) (t : Token) : Option State :=
  match s.expect with
  | .value => openValue s.stack t
  | .itemOrEnd =>
    match t, s.stack with
    | .closeArray, .array items :: rest => some (close rest (.array items.reverse))
    | t, stack => openValue stack t
  | .keyOrEnd =>
    match t with
    | .closeObject => some (close s.stack (objectOf s.members))
    | .text key => some { s with expect := .colon key }
    | _ => none
  | .key =>
    match t with
    | .text key => some { s with expect := .colon key }
    | _ => none
  | .colon key =>
    match t with
    | .colon => some ⟨.object s.members key :: s.stack, [], .value⟩
    | _ => none
  | .commaOrEnd =>
    match t, s.stack with
    | .comma, .array items :: rest => some ⟨.array items :: rest, [], .value⟩
    -- rest =>
    | .comma, .object members _ :: rest => some ⟨rest, members, .key⟩
    | .closeArray, .array items :: rest => some (close rest (.array items.reverse))
    | .closeObject, .object members _ :: rest => some (close rest (objectOf members))
    | _, _ => none
  | .nothing _ => none

def start : State := ⟨[], [], .value⟩

/-- The value that a list of tokens stands for. -/
def ofTokens? (tokens : List Token) : Option Json := do
  let s ← tokens.foldlM step start
  match s.expect with
  | .nothing v => some v
  | _ => none

end Reader

/-- The value of a JSON text; none if the text is not JSON. -/
def read? (text : String) : Option Json := (Token.scan text).bind Reader.ofTokens?

end ClientGen.Json
