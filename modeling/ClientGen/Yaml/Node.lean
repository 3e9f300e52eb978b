import ClientGen.Yaml.Token

/-! # YAML nodes

  A document as a tree of scalars, lists and maps. An anchor gives a node a slot, and a reference
  names the slot whose node it stands for. A slot that is taken twice belongs to the node that
  begins later. -/

namespace ClientGen.Yaml

/-- What is said about a node in front of it. -/
structure Properties where
  /-- The slot, if the node has an anchor. -/
  slot : Option Nat := none
  tag : Option (List Char) := none
  deriving DecidableEq, Repr

/-- A node. -/
inductive Node where
  | scalar (properties : Properties) (text : List Char) (style : ScalarStyle)
  /-- The node in a slot. -/
  | reference (slot : Nat)
  | list (properties : Properties) (items : List Node)
  | map (properties : Properties) (entries : List (Node × Node))

namespace Node

/-- The node that stands where nothing is written. -/
def nothing : Node := .scalar {} [] .plain

/-- The entry of a node in the table of slots. -/
def slotEntry (p : Properties) (n : Node) : List (Nat × Node) :=
  match p.slot with
  | some slot => [(slot, n)]
  | none => []

mutual

/-- The nodes of a tree that have slots, ordered by where they begin. -/
def slots : Node → List (Nat × Node)
  | .scalar p text style => slotEntry p (.scalar p text style)
  | .reference _ => []
  | .list p items => slotEntry p (.list p items) ++ itemSlots items
  | .map p entries => slotEntry p (.map p entries) ++ entrySlots entries

def itemSlots : List Node → List (Nat × Node)
  | [] => []
  | n :: rest => slots n ++ itemSlots rest

def entrySlots : List (Node × Node) → List (Nat × Node)
  | [] => []
  | (k, v) :: rest => slots k ++ slots v ++ entrySlots rest

end

mutual

/-- The number of marks that a tree is made of: one for each scalar and reference, two for each list
    and map. -/
def marks : Node → Nat
  | .scalar _ _ _ => 1
  | .reference _ => 1
  | .list _ items => 2 + itemMarks items
  | .map _ entries => 2 + entryMarks entries

def itemMarks : List Node → Nat
  | [] => 0
  | n :: rest => marks n + itemMarks rest

def entryMarks : List (Node × Node) → Nat
  | [] => 0
  | (k, v) :: rest => marks k + marks v + entryMarks rest

end

end Node

end ClientGen.Yaml
