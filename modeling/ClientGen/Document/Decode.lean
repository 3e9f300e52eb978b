import ClientGen.Document
import ClientGen.Document.Cause

/-! # Reading the parts of a document

  Each structure is read from an object, member by member in the order of the document, or from a
  row, which lists its fields in a fixed order. Members with other names are passed over. The first
  member that does not fit is the cause of the failure. -/

namespace ClientGen

/-- The result of reading a value: the part it stands for, or why it is none. -/
abbrev Decoded (α : Type) := Except Cause α

namespace Decode

variable {α δ : Type}

/-! ## Plain values -/

/-- The failure on a value of another kind. -/
def mismatch (expected : Expected) (v : Json) : Decoded α :=
  .error (.mismatch (Found.ofJson v) expected)

def text : Json → Decoded String
  | .string s => .ok s
  | v => mismatch .text v

def flag : Json → Decoded Bool
  | .bool b => .ok b
  | v => mismatch .flag v

/-- Reads a value that may be nothing. -/
def optional (read : Json → Decoded α) : Json → Decoded (Option α)
  | .null => .ok none
  | v => (read v).map some

def list (read : Json → Decoded α) : Json → Decoded (List α)
  | .array items => items.mapM read
  | v => mismatch .list v

/-- Reads an object whose members are all of one kind. -/
def entries (read : Json → Decoded α) : Json → Decoded (List (String × α))
  | .object members => members.mapM fun member => (read member.2).map fun a => (member.1, a)
  | v => mismatch .object v

/-! ## Structures -/

/-- How a structure takes a member: its part so far, the name and the value of the member. -/
abbrev Setter (δ : Type) := δ → String → Json → Decoded δ

/-- Whether a row of the given length has every field that must be in a row, and no more. -/
def checkRow (kind : RecordKind) (length : Nat) : Decoded Unit :=
  let missing := kind.fields.zipIdx.drop length
  match missing.find? fun field => !kind.optionalInRow.contains field.1 with
  | some (_, index) => .error (.rowTooShort index kind)
  | none => if kind.fields.length < length then .error (.rowTooLong length) else .ok ()

/-- Reads a structure from an object or a row, beginning with a part that has no member yet. -/
def record (kind : RecordKind) (empty : δ) (set : Setter δ) : Json → Decoded δ
  | .object members => members.foldlM (fun part member => set part member.1 member.2) empty
  | .array row => do
    let part ← (kind.fields.zip row).foldlM (fun part field => set part field.1 field.2) empty
    checkRow kind row.length
    return part
  | v => mismatch (.record kind) v

end Decode

open Decode

/-! ## Schemas -/

namespace Schema

/-- Reads the names of required properties. A truth value is tolerated, and names nothing. -/
def requiredNames (v : Json) : Decoded (List String) :=
  match v with
  | .bool _ => .ok []
  | v =>
    match list text v with
    | .ok names => .ok names
    | .error _ => .error .notNames

/-- Takes a member of a schema node. The value comes with its readings as a schema and as a map of
    schemas, of which at most one is asked for. -/
def setMember (s : Schema) (name : String) (v : Json) (asSchema : Unit → Decoded Schema)
    (asProperties : Unit → Decoded (List (String × Schema))) : Decoded Schema :=
  match name, v with
  | "$ref", v => (optional text v).map fun r => { s with reference := r }
  | "type", v => (optional text v).map fun k => { s with kind := k }
  | "properties", .null => .ok { s with properties := none }
  | "properties", _ => (asProperties ()).map fun ps => { s with properties := some ps }
  | "required", v => (requiredNames v).map fun names => { s with required := names }
  | "items", .null => .ok { s with items := none }
  | "items", _ => (asSchema ()).map fun i => { s with items := some i }
  | _, _ => .ok s

mutual

/-- Reads a schema node. -/
def decode : Json → Decoded Schema
  | .object members => decodeMembers {} members
  | .array row => do
    let s ← decodeRow {} RecordKind.schema.fields row
    checkRow .schema row.length
    return s
  | v => mismatch (.record .schema) v

def decodeMembers (s : Schema) : List (String × Json) → Decoded Schema
  | [] => .ok s
  | (name, v) :: rest => do
    let s ← setMember s name v (fun _ => decode v) (fun _ => decodeProperties v)
    decodeMembers s rest

/-- Reads the fields of a schema node from a row. -/
def decodeRow (s : Schema) (names : List String) : List Json → Decoded Schema
  | [] => .ok s
  | v :: rest =>
    match names with
    | [] => .ok s
    | name :: names => do
      let s ← setMember s name v (fun _ => decode v) (fun _ => decodeProperties v)
      decodeRow s names rest

def decodeProperties : Json → Decoded (List (String × Schema))
  | .object members => decodeEntries members
  | v => mismatch .object v

def decodeEntries : List (String × Json) → Decoded (List (String × Schema))
  | [] => .ok []
  | (name, v) :: rest => do
    let s ← decode v
    let entries ← decodeEntries rest
    return (name, s) :: entries

end

end Schema

/-! ## Parameters -/

namespace Carrier

/-- The carrier with a name; every unknown name means another one. -/
def ofName : String → Carrier
  | "path" => .path
  | "query" => .query
  | "header" => .header
  | "formData" => .formData
  | "body" => .body
  | _ => .other

/-- Reads a carrier: its name, or an object that has the name as its one key and nothing under
    it. -/
def decode : Json → Decoded Carrier
  | .string s => .ok (ofName s)
  | .object [(key, .null)] => .ok (ofName key)
  | .object [(_, v)] => mismatch .nothing v
  | .object _ => .error .notOneMember
  | v => mismatch .carrier v

end Carrier

namespace Parameter

def setMember : Setter Parameter := fun p name v =>
  match name with
  | "name" => (text v).map fun s => { p with name := s }
  | "in" => (Carrier.decode v).map fun l => { p with carrier := l }
  | "$ref" => (optional text v).map fun r => { p with reference := r }
  | "required" => (flag v).map fun b => { p with required := b }
  | "type" => (optional text v).map fun k => { p with kind := k }
  | "items" => (optional Schema.decode v).map fun i => { p with items := i }
  | "schema" => (optional Schema.decode v).map fun s => { p with schema := s }
  | _ => .ok p

/-- Reads a parameter. -/
def decode (v : Json) : Decoded Parameter := record .parameter {} setMember v

end Parameter

/-! ## Responses -/

namespace Response

def setMember : Setter Response := fun r name v =>
  match name with
  | "description" => (optional text v).map fun s => { r with description := s }
  | "schema" => (optional Schema.decode v).map fun s => { r with schema := s }
  | _ => .ok r

/-- Reads a response. -/
def decode (v : Json) : Decoded Response := record .response {} setMember v

end Response

/-! ## Operations -/

namespace Operation

/-- An operation whose name may not have been met yet. -/
structure Draft where
  /-- The name, once it was met. -/
  id : Option String := none
  rest : Operation := { id := "" }

def setMember : Setter Draft := fun d name v =>
  match name with
  | "operationId" => (text v).map fun s => { d with id := some s }
  | "parameters" =>
    (list Parameter.decode v).map fun ps => { d with rest := { d.rest with parameters := ps } }
  | "responses" =>
    (entries Response.decode v).map fun rs => { d with rest := { d.rest with responses := rs } }
  | "summary" =>
    (optional text v).map fun s => { d with rest := { d.rest with summary := s } }
  | "description" =>
    (optional text v).map fun s => { d with rest := { d.rest with description := s } }
  | _ => .ok d

/-- Reads an operation. Its method and its path are not part of it; they are found around it. -/
def decode (v : Json) : Decoded Operation := do
  let d ← record .operation {} setMember v
  match d.id with
  | some id => return { d.rest with id := id }
  | none => .error (.missingField "operationId")

end Operation

/-! ## Documents -/

namespace Document

def setMember : Setter Document := fun d name v =>
  match name with
  | "basePath" => (text v).map fun s => { d with basePath := s }
  | "paths" => (entries (entries .ok) v).map fun ps => { d with paths := ps }
  | "definitions" => (entries Schema.decode v).map fun ds => { d with definitions := ds }
  | _ => .ok d

/-- Reads a document. -/
def decode (v : Json) : Decoded Document := record .document {} setMember v

end Document

end ClientGen
