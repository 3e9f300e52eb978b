import ClientGen.Document.Decode

/-! # Records, member by member

  A structure is read from an object by taking its members one after the other. Schema nodes are
  read by a recursion of their own, because the reader of a member is the reader of the node; it
  comes to the same (`Schema.decode_object`).

  * **`takeAll_append`**: members taken in two portions.
  * **`Ignores`**: a name of no field, of which nothing is taken.
  * **`takeAll_ignored`**: members with such names may stand anywhere, or not at all. -/

namespace ClientGen

/-! ## Work that may fail -/

section

variable {ε α β : Type} {x : Except ε α}

theorem bind_eq_ok_iff {f : α → Except ε β} {b : β} :
    x.bind f = .ok b ↔ ∃ a, x = .ok a ∧ f a = .ok b := by
  cases x <;> simp [Except.bind]

theorem map_eq_ok_iff {f : α → β} {b : β} : x.map f = .ok b ↔ ∃ a, x = .ok a ∧ f a = b := by
  cases x <;> simp [Except.map]

end

namespace Decode

variable {α δ : Type}

/-! ## Taking members -/

def takeAll (set : Setter δ) (part : δ) (members : List (String × Json)) : Decoded δ :=
  members.foldlM (fun part member => set part member.1 member.2) part

theorem record_object (kind : RecordKind) (empty : δ) (set : Setter δ)
    (members : List (String × Json)) :
    record kind empty set (.object members) = takeAll set empty members := rfl

theorem takeAll_nil (set : Setter δ) (part : δ) : takeAll set part [] = .ok part := rfl

theorem takeAll_cons (set : Setter δ) (part : δ) (name : String) (v : Json)
    (rest : List (String × Json)) :
    takeAll set part ((name, v) :: rest)
      = (set part name v).bind fun next => takeAll set next rest := rfl

theorem takeAll_append (set : Setter δ) (part : δ) (front back : List (String × Json)) :
    takeAll set part (front ++ back)
      = (takeAll set part front).bind fun next => takeAll set next back :=
  List.foldlM_append

/-- What none of the members changes, all of them together do not change. -/
theorem takeAll_preserves {β : Type} {set : Setter δ} {part whole : δ}
    {members : List (String × Json)} (field : δ → β)
    (step : ∀ part name v next, name ∈ OrderedMap.keys members → set part name v = .ok next →
      field next = field part)
    (h : takeAll set part members = .ok whole) : field whole = field part := by
  induction members generalizing part with
  | nil =>
    cases h
    rfl
  | cons member rest ih =>
    obtain ⟨name, v⟩ := member
    rw [takeAll_cons] at h
    obtain ⟨next, hnext, hrest⟩ := bind_eq_ok_iff.mp h
    -- The field is followed back from the end: over the later members first, then over this one.
    have hlater : field whole = field next :=
      ih (fun part n w after hn => step part n w after (List.mem_cons_of_mem name hn)) hrest
    rw [hlater, step part name v next (List.mem_cons_self ..) hnext]

/-- If a member can never be taken, an object with this member cannot be read. -/
theorem takeAll_member_ne_ok {set : Setter δ} {name : String} {v : Json}
    (h : ∀ part next, set part name v ≠ .ok next) (part whole : δ)
    (front back : List (String × Json)) :
    takeAll set part (front ++ (name, v) :: back) ≠ .ok whole := by
  intro htaken
  rw [takeAll_append] at htaken
  obtain ⟨next, _, hrest⟩ := bind_eq_ok_iff.mp htaken
  rw [takeAll_cons] at hrest
  obtain ⟨after, hafter, _⟩ := bind_eq_ok_iff.mp hrest
  -- Whatever the members in front of it leave, the member itself is not taken.
  exact h next after hafter

/-- A setter takes nothing of a member with this name. -/
def Ignores (set : Setter δ) (name : String) : Prop := ∀ part v, set part name v = .ok part

/-- Members of which nothing is taken may be left out. -/
theorem takeAll_ignored {set : Setter δ} {middle : List (String × Json)}
    (h : ∀ m ∈ middle, Ignores set m.1) (part : δ) (front back : List (String × Json)) :
    takeAll set part (front ++ (middle ++ back)) = takeAll set part (front ++ back) := by
  rw [takeAll_append, takeAll_append]
  -- Both objects are taken alike up to the middle; what follows is shown for any part so taken.
  congr 1
  funext next
  induction middle with
  | nil => rfl
  | cons m rest ih =>
    obtain ⟨name, v⟩ := m
    have hname : set next name v = .ok next := h (name, v) (List.mem_cons_self ..) next v
    rw [List.cons_append, takeAll_cons, hname]
    exact ih fun n hn => h n (List.mem_cons_of_mem _ hn)

/-! ## Lists and maps -/

theorem optional_of_ne_null (read : Json → Decoded α) {v : Json} (h : v ≠ .null) :
    optional read v = (read v).map some := by
  cases v <;> first | rfl | exact absurd rfl h

theorem list_array (read : Json → Decoded α) (items : List Json) :
    list read (.array items) = items.mapM read := rfl

theorem entries_object (read : Json → Decoded α) (members : List (String × Json)) :
    entries read (.object members)
      = members.mapM fun member => (read member.2).map fun a => (member.1, a) := rfl

/-- Raw values are read as they are. -/
theorem entries_ok (members : List (String × Json)) :
    entries .ok (.object members) = .ok members := by
  rw [entries_object]
  exact (List.mapM_pure (m := Decoded)).trans (by simp [pure, Except.pure])

theorem list_append (read : Json → Decoded α) (front back : List Json) :
    list read (.array (front ++ back))
      = (list read (.array front)).bind fun f =>
          (list read (.array back)).map fun b => f ++ b := by
  simp only [list_array, List.mapM_append]
  rfl

theorem list_cons (read : Json → Decoded α) (v : Json) (rest : List Json) :
    list read (.array (v :: rest))
      = (read v).bind fun a => (list read (.array rest)).map fun b => a :: b := by
  simp only [list_array, List.mapM_cons]
  rfl

theorem entries_append (read : Json → Decoded α) (front back : List (String × Json)) :
    entries read (.object (front ++ back))
      = (entries read (.object front)).bind fun f =>
          (entries read (.object back)).map fun b => f ++ b := by
  simp only [entries_object, List.mapM_append]
  rfl

theorem entries_cons (read : Json → Decoded α) (key : String) (v : Json)
    (rest : List (String × Json)) :
    entries read (.object ((key, v) :: rest))
      = (read v).bind fun a => (entries read (.object rest)).map fun b => (key, a) :: b := by
  simp only [entries_object, List.mapM_cons]
  cases read v <;> rfl

/-- A map is read entry by entry. -/
theorem entries_middle_eq_ok_iff {read : Json → Decoded α} {front back : List (String × Json)}
    {key : String} {v : Json} {whole : List (String × α)} :
    entries read (.object (front ++ (key, v) :: back)) = .ok whole
      ↔ ∃ f a b, entries read (.object front) = .ok f ∧ read v = .ok a
        ∧ entries read (.object back) = .ok b ∧ whole = f ++ (key, a) :: b := by
  -- Three readings one after the other; each of them must succeed.
  rw [entries_append, entries_cons]
  simp only [bind_eq_ok_iff, map_eq_ok_iff]
  constructor
  · rintro ⟨f, hf, _, ⟨a, ha, b, hb, rfl⟩, rfl⟩
    exact ⟨f, a, b, hf, ha, hb, rfl⟩
  · rintro ⟨f, a, b, hf, ha, hb, rfl⟩
    exact ⟨f, hf, _, ⟨a, ha, b, hb, rfl⟩, rfl⟩

end Decode

open Decode

/-! ## Schema nodes -/

namespace Schema

def take : Setter Schema := fun s name v =>
  s.setMember name v (fun _ => decode v) (fun _ => decodeProperties v)

theorem decodeMembers_eq (s : Schema) (members : List (String × Json)) :
    decodeMembers s members = takeAll take s members := by
  induction members generalizing s with
  | nil => rw [decodeMembers, takeAll_nil]
  | cons member rest ih =>
    obtain ⟨name, v⟩ := member
    rw [decodeMembers, takeAll_cons]
    show (take s name v).bind _ = _
    congr 1
    funext next
    exact ih next

theorem decode_object (members : List (String × Json)) :
    decode (.object members) = takeAll take {} members := by
  rw [decode, decodeMembers_eq]

theorem decodeEntries_eq (members : List (String × Json)) :
    decodeEntries members = entries decode (.object members) := by
  rw [entries_object]
  induction members with
  | nil => rw [decodeEntries]; rfl
  | cons member rest ih =>
    obtain ⟨name, v⟩ := member
    rw [decodeEntries, ih, List.mapM_cons]
    cases decode v <;> rfl

theorem decodeProperties_eq (v : Json) : decodeProperties v = entries decode v := by
  cases v with
  | object members => rw [decodeProperties, decodeEntries_eq]
  | _ => rfl

theorem take_properties (s : Schema) (members : List (String × Json)) :
    take s "properties" (.object members)
      = (entries decode (.object members)).map fun ps => { s with properties := some ps } := by
  rw [← decodeProperties_eq]
  rfl

theorem take_items {s : Schema} {v : Json} (h : v ≠ .null) :
    take s "items" v = (decode v).map fun i => { s with items := some i } := by
  cases v <;> first | rfl | exact absurd rfl h

theorem ignores_take {name : String} (h : name ∉ RecordKind.schema.fields) :
    Ignores take name := by
  intro s v
  unfold take setMember
  split <;> simp_all [RecordKind.fields]

end Schema

/-! ## Members that hold other structures -/

namespace Parameter

theorem setMember_in (p : Parameter) (v : Json) :
    setMember p "in" v = (Carrier.decode v).map fun l => { p with carrier := l } := rfl

theorem setMember_items (p : Parameter) (v : Json) :
    setMember p "items" v
      = (optional Schema.decode v).map fun i => { p with items := i } := rfl

theorem setMember_schema (p : Parameter) (v : Json) :
    setMember p "schema" v
      = (optional Schema.decode v).map fun s => { p with schema := s } := rfl

end Parameter

theorem Response.setMember_schema (r : Response) (v : Json) :
    setMember r "schema" v
      = (optional Schema.decode v).map fun s => { r with schema := s } := rfl

namespace Operation

theorem setMember_parameters (d : Draft) (v : Json) :
    setMember d "parameters" v
      = (list Parameter.decode v).map fun ps =>
          { d with rest := { d.rest with parameters := ps } } := rfl

theorem setMember_responses (d : Draft) (v : Json) :
    setMember d "responses" v
      = (entries Response.decode v).map fun rs =>
          { d with rest := { d.rest with responses := rs } } := rfl

/-- The operation that a draft has become; it must have got a name. -/
def Draft.finish (d : Draft) : Decoded Operation :=
  match d.id with
  | some id => .ok { d.rest with id := id }
  | none => .error (.missingField "operationId")

theorem decode_eq (v : Json) : decode v = (record .operation {} setMember v).bind Draft.finish := by
  unfold decode
  congr 1

end Operation

namespace Document

theorem setMember_paths (d : Document) (v : Json) :
    setMember d "paths" v
      = (entries (entries .ok) v).map fun ps => { d with paths := ps } := rfl

theorem setMember_definitions (d : Document) (v : Json) :
    setMember d "definitions" v
      = (entries Schema.decode v).map fun ds => { d with definitions := ds } := rfl

end Document

/-! ## Names of no field -/

theorem Parameter.ignores_setMember {name : String} (h : name ∉ RecordKind.parameter.fields) :
    Ignores Parameter.setMember name := by
  intro p v
  unfold Parameter.setMember
  split <;> simp_all [RecordKind.fields]

theorem Response.ignores_setMember {name : String} (h : name ∉ RecordKind.response.fields) :
    Ignores Response.setMember name := by
  intro r v
  unfold Response.setMember
  split <;> simp_all [RecordKind.fields]

theorem Operation.ignores_setMember {name : String} (h : name ∉ RecordKind.operation.fields) :
    Ignores Operation.setMember name := by
  intro d v
  unfold Operation.setMember
  split <;> simp_all [RecordKind.fields]

theorem Document.ignores_setMember {name : String} (h : name ∉ RecordKind.document.fields) :
    Ignores Document.setMember name := by
  intro d v
  unfold Document.setMember
  split <;> simp_all [RecordKind.fields]

end ClientGen
