import ClientGen.Document.Encode
import ClientGen.Package
import ClientGen.Proofs.Document.Records

/-! # Reading what was written

  Writing leaves out what a reader supplies by itself. So a structure that was written is read as it
  was, whatever it holds and however deeply it is nested. Only an operation comes back without its
  method and its path, which are no members of it.

  * **`Leads`**: taking written members leads from one part of a structure to the next.
  * **`decode_encode`**, for each structure: taking all of them leads to the whole.
  * **`roundTrip`**: these together, and what follows for documents in normal form. -/

namespace ClientGen

open Decode Encode

/-! ## Members that were written -/

namespace Decode

variable {α δ : Type} {set : Setter δ} {part next whole : δ} {name : String}

/-- Taking the members leads from a part of a structure to another. -/
def Leads (set : Setter δ) (part : δ) (members : List (String × Json)) (whole : δ) : Prop :=
  takeAll set part members = .ok whole

theorem Leads.append {front back : List (String × Json)} (hfront : Leads set part front next)
    (hback : Leads set next back whole) : Leads set part (front ++ back) whole := by
  unfold Leads at hfront hback ⊢
  rw [takeAll_append, hfront]
  exact hback

theorem leads_single {v : Json} (h : set part name v = .ok whole) :
    Leads set part [(name, v)] whole := by
  unfold Leads
  rw [takeAll_cons, h]
  rfl

/-- A text that is absent must be absent by default. -/
theorem leads_textMember {text : Option String} (put : Option String → δ)
    (absent : part = put none)
    (present : ∀ s, set part name (.string s) = .ok (put (some s))) :
    Leads set part (textMember name text) (put text) := by
  cases text with
  | none =>
    rw [absent]
    exact takeAll_nil set (put none)
  | some s => exact leads_single (present s)

/-- Names that are left out must be none by default. -/
theorem leads_namesMember {names : List String} (put : List String → δ)
    (absent : part = put [])
    (present : set part name (.array (names.map .string)) = .ok (put names)) :
    Leads set part (namesMember name names) (put names) := by
  cases names with
  | nil =>
    rw [absent]
    exact takeAll_nil set (put [])
  | cons n rest => exact leads_single present

/-- Reading undoes writing on lists of values on each of which it does. -/
theorem list_map {read : Json → Decoded α} {write : α → Json} {as : List α}
    (h : ∀ a ∈ as, read (write a) = .ok a) : list read (.array (as.map write)) = .ok as := by
  rw [list_array]
  induction as with
  | nil => rfl
  | cons a rest ih =>
    have ha : read (write a) = .ok a := h a (List.mem_cons_self ..)
    have hrest := ih fun b hb => h b (List.mem_cons_of_mem a hb)
    rw [List.map_cons, List.mapM_cons, ha, hrest]
    rfl

/-- Reading undoes writing on maps of values on each of which it does. -/
theorem entries_map {read : Json → Decoded α} {write : α → Json} {as : List (String × α)}
    (h : ∀ a ∈ as, read (write a.2) = .ok a.2) :
    entries read (.object (as.map fun a => (a.1, write a.2))) = .ok as := by
  rw [entries_object]
  induction as with
  | nil => rfl
  | cons a rest ih =>
    have ha : read (write a.2) = .ok a.2 := h a (List.mem_cons_self ..)
    have hrest := ih fun b hb => h b (List.mem_cons_of_mem a hb)
    rw [List.map_cons, List.mapM_cons, ha, hrest]
    rfl

end Decode

/-! ## Schema nodes -/

namespace Schema

theorem encode_ne_null (s : Schema) : s.encode ≠ .null := by
  obtain ⟨reference, kind, properties, required, items⟩ := s
  intro h
  rw [encode] at h
  cases h

theorem requiredNames_array (names : List String) :
    requiredNames (.array (names.map .string)) = .ok names := by
  have hnames : list text (.array (names.map .string)) = .ok names := list_map fun _ _ => rfl
  simp only [requiredNames, hnames]

mutual

theorem decode_encode : ∀ s : Schema, decode s.encode = .ok s
  | ⟨reference, kind, properties, required, items⟩ => by
    have hreference : Leads take {} (textMember "$ref" reference) { reference } :=
      leads_textMember (fun reference => ({ reference } : Schema)) rfl fun _ => rfl
    have hkind : Leads take { reference } (textMember "type" kind) { reference, kind } :=
      leads_textMember (fun kind => ({ reference, kind } : Schema)) rfl fun _ => rfl
    have hrequired : Leads take { reference, kind, properties } (namesMember "required" required)
        { reference, kind, properties, required } := by
      apply leads_namesMember
        (fun required => ({ reference, kind, properties, required } : Schema)) rfl
      show (requiredNames _).map _ = _
      rw [requiredNames_array]
      rfl
    rw [encode, decode_object]
    exact (((hreference.append hkind).append (leads_encodeProperties properties)).append
      hrequired).append (leads_encodeItems items)

theorem leads_encodeProperties {reference kind : Option String} :
    ∀ properties : Option (List (String × Schema)),
      Leads take { reference, kind } (encodeProperties properties) { reference, kind, properties }
  | none => rfl
  | some properties => by
    rw [encodeProperties]
    apply leads_single
    rw [take_properties, entries_encodeEntries properties]
    rfl

theorem entries_encodeEntries :
    ∀ properties : List (String × Schema),
      entries decode (.object (encodeEntries properties)) = .ok properties
  | [] => rfl
  | (name, s) :: rest => by
    have hrest := entries_encodeEntries rest
    rw [entries_object] at hrest
    rw [encodeEntries, entries_object, List.mapM_cons, decode_encode s, hrest]
    rfl

theorem leads_encodeItems {reference kind : Option String}
    {properties : Option (List (String × Schema))} {required : List String} :
    ∀ items : Option Schema,
      Leads take { reference, kind, properties, required } (encodeItems items)
        { reference, kind, properties, required, items }
  | none => rfl
  | some items => by
    rw [encodeItems]
    apply leads_single
    rw [take_items items.encode_ne_null, decode_encode items]
    rfl

end

/-- A schema beside other members of a structure is read as a value that may be nothing. -/
theorem leads_member {δ : Type} {set : Setter δ} {part : δ} {name : String}
    {schema : Option Schema} (put : Option Schema → δ) (absent : part = put none)
    (present : ∀ v, set part name v = (optional decode v).map put) :
    Leads set part (member name schema) (put schema) := by
  cases schema with
  | none =>
    rw [absent]
    exact takeAll_nil set (put none)
  | some s =>
    apply leads_single
    rw [present, optional_of_ne_null decode s.encode_ne_null, decode_encode]
    rfl

end Schema

/-! ## Responses and parameters -/

theorem Response.decode_encode (r : Response) : decode r.encode = .ok r := by
  obtain ⟨description, schema⟩ := r
  have hdescription : Leads setMember {} (textMember "description" description)
      { description } :=
    leads_textMember (fun description => ({ description } : Response)) rfl fun _ => rfl
  have hschema : Leads setMember { description } (Schema.member "schema" schema)
      { description, schema } :=
    Schema.leads_member (fun schema => ({ description, schema } : Response)) rfl fun _ => rfl
  exact hdescription.append hschema

theorem Carrier.decode_name (c : Carrier) : decode (.string c.name) = .ok c := by
  cases c <;> rfl

theorem Parameter.decode_encode (p : Parameter) : decode p.encode = .ok p := by
  obtain ⟨name, carrier, reference, required, kind, items, schema⟩ := p
  -- One step for each field, in the order in which the fields are written.
  have hname : Leads setMember {} [("name", .string name)] { name } := leads_single rfl
  have hcarrier : Leads setMember { name } [("in", .string carrier.name)] { name, carrier } := by
    apply leads_single
    rw [setMember_in, Carrier.decode_name]
    rfl
  have hreference : Leads setMember { name, carrier } (textMember "$ref" reference)
      { name, carrier, reference } :=
    leads_textMember (fun reference => ({ name, carrier, reference } : Parameter)) rfl fun _ => rfl
  have hrequired : Leads setMember { name, carrier, reference } [("required", .bool required)]
      { name, carrier, reference, required } := leads_single rfl
  have hkind : Leads setMember { name, carrier, reference, required } (textMember "type" kind)
      { name, carrier, reference, required, kind } :=
    leads_textMember (fun kind => ({ name, carrier, reference, required, kind } : Parameter)) rfl
      fun _ => rfl
  have hitems : Leads setMember { name, carrier, reference, required, kind }
      (Schema.member "items" items) { name, carrier, reference, required, kind, items } :=
    Schema.leads_member
      (fun items => ({ name, carrier, reference, required, kind, items } : Parameter)) rfl
      fun _ => rfl
  have hschema : Leads setMember { name, carrier, reference, required, kind, items }
      (Schema.member "schema" schema)
      { name, carrier, reference, required, kind, items, schema } :=
    Schema.leads_member
      (fun schema => ({ name, carrier, reference, required, kind, items, schema } : Parameter)) rfl
      fun _ => rfl
  exact (((((hname.append hcarrier).append hreference).append hrequired).append hkind).append
    hitems).append hschema

/-! ## Operations -/

namespace Operation

/-- What is left of an operation when it is written: its method and its path are around it. -/
def bare (op : Operation) : Operation := { op with method := .get, path := "" }

theorem encode_bare (op : Operation) : op.bare.encode = op.encode := rfl

theorem decode_encode (op : Operation) : decode op.encode = .ok op.bare := by
  obtain ⟨id, method, path, parameters, responses, summary, description⟩ := op
  -- The name is kept as one that may be missing until all members are taken.
  have hid : Leads setMember {} [("operationId", .string id)] { id := some id } := leads_single rfl
  have hparameters : Leads setMember { id := some id }
      [("parameters", .array (parameters.map Parameter.encode))]
      { id := some id, rest := { id := "", parameters } } := by
    apply leads_single
    rw [setMember_parameters, list_map fun p _ => p.decode_encode]
    rfl
  have hresponses : Leads setMember { id := some id, rest := { id := "", parameters } }
      [("responses", .object (responses.map fun r => (r.1, r.2.encode)))]
      { id := some id, rest := { id := "", parameters, responses } } := by
    apply leads_single
    rw [setMember_responses, entries_map fun r _ => r.2.decode_encode]
    rfl
  have hsummary : Leads setMember { id := some id, rest := { id := "", parameters, responses } }
      (textMember "summary" summary)
      { id := some id, rest := { id := "", parameters, responses, summary } } :=
    leads_textMember
      (fun summary =>
        ({ id := some id, rest := { id := "", parameters, responses, summary } } : Draft)) rfl
      fun _ => rfl
  have hdescription : Leads setMember
      { id := some id, rest := { id := "", parameters, responses, summary } }
      (textMember "description" description)
      { id := some id, rest := { id := "", parameters, responses, summary, description } } :=
    leads_textMember
      (fun description =>
        ({ id := some id,
           rest := { id := "", parameters, responses, summary, description } } : Draft)) rfl
      fun _ => rfl
  have hmembers : record .operation {} setMember
      (encode ⟨id, method, path, parameters, responses, summary, description⟩)
      = .ok { id := some id,
              rest := { id := "", parameters, responses, summary, description } } :=
    (((hid.append hparameters).append hresponses).append hsummary).append hdescription
  -- What is left is the check that a name was met.
  rw [decode_eq, hmembers]
  rfl

/-! ### Normal forms of operations -/

/-- A value in normal form: what is written of the operation that is read. -/
def normalize (v : Json) : Decoded Json := (decode v).map encode

/-- A member of a path item in normal form: an operation as it would be written, and everything
    else as it is. -/
def normalMember (member : String × Json) : String × Json :=
  match HttpMethod.ofKey? member.1, normalize member.2 with
  | some _, .ok v => (member.1, v)
  | _, _ => member

theorem normalMember_of_skipped {key : String} {v : Json} (h : HttpMethod.ofKey? key = none) :
    normalMember (key, v) = (key, v) := by
  simp [normalMember, h]

theorem normalMember_of_error {key : String} {v : Json} {c : Cause} (h : decode v = .error c) :
    normalMember (key, v) = (key, v) := by
  cases hkey : HttpMethod.ofKey? key <;> simp [normalMember, normalize, h, hkey, Except.map]

theorem normalMember_of_ok {key : String} {v : Json} {m : HttpMethod} {op : Operation}
    (hkey : HttpMethod.ofKey? key = some m) (h : decode v = .ok op) :
    normalMember (key, v) = (key, op.encode) := by
  simp [normalMember, normalize, h, hkey, Except.map]

/-- What is in normal form stays as it is. -/
theorem normalMember_normalMember (member : String × Json) :
    normalMember (normalMember member) = normalMember member := by
  obtain ⟨key, v⟩ := member
  cases hkey : HttpMethod.ofKey? key with
  | none => rw [normalMember_of_skipped hkey, normalMember_of_skipped hkey]
  | some m =>
    cases h : decode v with
    | error c => rw [normalMember_of_error h, normalMember_of_error h]
    | ok op =>
      rw [normalMember_of_ok hkey h, normalMember_of_ok hkey op.decode_encode, encode_bare]

end Operation

/-! ## Documents -/

namespace Document

theorem decode_encode (d : Document) : decode d.encode = .ok d := by
  obtain ⟨basePath, paths, definitions⟩ := d
  have hbase : Leads setMember {} [("basePath", .string basePath)] { basePath } :=
    leads_single rfl
  have hpaths : Leads setMember { basePath }
      [("paths", .object (paths.map fun p => (p.1, .object p.2)))] { basePath, paths } := by
    -- The members of a path item are kept as raw values.
    have hitems : ∀ p ∈ paths, entries .ok (.object p.2) = .ok p.2 := by
      intro p _
      have hraw : entries .ok (.object (p.2.map fun m => (m.1, id m.2))) = .ok p.2 :=
        entries_map fun _ _ => rfl
      simpa using hraw
    apply leads_single
    rw [setMember_paths, entries_map hitems]
    rfl
  have hdefinitions : Leads setMember { basePath, paths }
      [("definitions", .object (definitions.map fun s => (s.1, s.2.encode)))]
      { basePath, paths, definitions } := by
    apply leads_single
    rw [setMember_definitions, entries_map fun s _ => s.2.decode_encode]
    rfl
  exact (hbase.append hpaths).append hdefinitions

/-- A value in normal form: what is written of the document that is read. -/
def normalize (v : Json) : Decoded Json := (decode v).map encode

/-- A document with every operation in normal form. -/
def normalOperations (d : Document) : Document :=
  { d with paths := d.paths.map fun p => (p.1, p.2.map Operation.normalMember) }

theorem itemOperations_normalMember (base template : String) (item : List (String × Json)) :
    itemOperations base template (item.map Operation.normalMember)
      = itemOperations base template item := by
  induction item with
  | nil => rfl
  | cons member rest ih =>
    obtain ⟨key, v⟩ := member
    cases hkey : HttpMethod.ofKey? key with
    | none =>
      rw [List.map_cons, Operation.normalMember_of_skipped hkey]
      simp only [itemOperations, hkey, ih]
    | some m =>
      cases h : Operation.decode v with
      | error c =>
        rw [List.map_cons, Operation.normalMember_of_error h]
        simp only [itemOperations, hkey, h]
      | ok op =>
        -- The method and the path, which are not written, are found around the operation again.
        rw [List.map_cons, Operation.normalMember_of_ok hkey h]
        simp only [itemOperations, hkey, h, ih, op.decode_encode]
        rfl

theorem operations_normalOperations (d : Document) :
    d.normalOperations.operations = d.operations := by
  have hpaths : ∀ (base : String) (paths : List (String × List (String × Json))),
      pathOperations base (paths.map fun p => (p.1, p.2.map Operation.normalMember))
        = pathOperations base paths := by
    intro base paths
    induction paths with
    | nil => rfl
    | cons p rest ih =>
      rw [List.map_cons, pathOperations, pathOperations, itemOperations_normalMember, ih]
  exact hpaths d.pathRoot d.paths

theorem compile_normalOperations (d : Document) : d.normalOperations.compile = d.compile := by
  unfold compile
  rw [operations_normalOperations]
  rfl

theorem normalOperations_normalOperations (d : Document) :
    d.normalOperations.normalOperations = d.normalOperations := by
  simp only [normalOperations, List.map_map, Function.comp_def,
    Operation.normalMember_normalMember]

/-- **Round trip**: every structure is read as it was written, an operation without its method and
    its path. So a document in normal form stays as it is and compiles as before, and it may have
    its operations, which a document keeps as raw values, in normal form as well. -/
theorem roundTrip :
    (∀ s : Schema, Schema.decode s.encode = .ok s)
      ∧ (∀ r : Response, Response.decode r.encode = .ok r)
      ∧ (∀ p : Parameter, Parameter.decode p.encode = .ok p)
      ∧ (∀ op : Operation,
          Operation.decode op.encode = .ok { op with method := .get, path := "" })
      ∧ (∀ d : Document, decode d.encode = .ok d)
      ∧ (∀ v d, decode v = .ok d →
          ∃ w, normalize v = .ok w ∧ normalize w = .ok w
            ∧ (decode w).map compile = (decode v).map compile)
      ∧ ∀ d : Document, d.normalOperations.normalOperations = d.normalOperations
          ∧ d.normalOperations.compile = d.compile := by
  refine ⟨Schema.decode_encode, Response.decode_encode, Parameter.decode_encode,
    Operation.decode_encode, decode_encode, ?_, ?_⟩
  · intro v d h
    have hv : normalize v = .ok d.encode := by
      rw [normalize, h]
      rfl
    have hw : normalize d.encode = .ok d.encode := by
      rw [normalize, decode_encode]
      rfl
    exact ⟨d.encode, hv, hw, by rw [decode_encode, h]⟩
  · intro d
    exact ⟨d.normalOperations_normalOperations, d.compile_normalOperations⟩

/-- A document that is not in normal form: it has members of no field, a truth value where names are
    listed, and fields that are left out. -/
def looseDocument : Json := .object
  [("swagger", .string "2.0"),
   ("paths", .object [("/pets", .object
     [("get", .object [("operationId", .string "listPets"), ("tags", .array [])])])]),
   ("definitions", .object
     [("Pet", .object [("type", .string "object"), ("required", .bool true)])])]

theorem roundTrip_looseDocument :
    ∃ d, decode looseDocument = .ok d
      ∧ ∃ w, normalize looseDocument = .ok w ∧ normalize w = .ok w
        ∧ (decode w).map compile = (decode looseDocument).map compile :=
  ⟨_, rfl, roundTrip.2.2.2.2.2.1 looseDocument _ rfl⟩

end Document

end ClientGen
