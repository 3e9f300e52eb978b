import ClientGen.Proofs.Document.Flattening
import ClientGen.Proofs.Document.Records
import ClientGen.Proofs.Package.Assembly

/-! # Parts that make no difference

  Of the responses of an operation only one is looked at. Two operations that differ in others are
  alike: the same comes of them. The same is said here of documents, and of values that are read:
  two readings agree if both fail or both give parts that are alike.

  Reading keeps this up. If every member takes related parts to related parts, then all members
  together do (`takeAll_agree`), so one member may be exchanged for another that is read alike
  (`takeAll_member_agree`). -/

namespace ClientGen

/-! ## Readings that agree -/

section

variable {ε α β γ δ : Type} {R : α → α → Prop} {S : β → β → Prop}

/-- Two readings agree: both fail, or both give related parts. -/
inductive Agree (R : α → α → Prop) : Except ε α → Except ε α → Prop where
  | ok {a b : α} : R a b → Agree R (.ok a) (.ok b)
  | error (e e' : ε) : Agree R (.error e) (.error e')

theorem Agree.bind {x y : Except ε α} {f g : α → Except ε β} (h : Agree R x y)
    (hnext : ∀ a b, R a b → Agree S (f a) (g b)) : Agree S (x.bind f) (y.bind g) := by
  cases h with
  | ok hab => exact hnext _ _ hab
  | error e e' => exact .error e e'

theorem Agree.map {x y : Except ε α} {f g : α → β} (h : Agree R x y)
    (hnext : ∀ a b, R a b → S (f a) (g b)) : Agree S (x.map f) (y.map g) := by
  cases h with
  | ok hab => exact .ok (hnext _ _ hab)
  | error e e' => exact .error e e'

theorem agree_map {f g : α → β} (x : Except ε α) (h : ∀ a, S (f a) (g a)) :
    Agree S (x.map f) (x.map g) := by
  cases x with
  | ok a => exact .ok (h a)
  | error e => exact .error e e

theorem agree_bind {f g : α → Except ε β} (x : Except ε α) (h : ∀ a, Agree S (f a) (g a)) :
    Agree S (x.bind f) (x.bind g) := by
  cases x with
  | ok a => exact h a
  | error e => exact .error e e

theorem agree_refl (hR : ∀ a, R a a) (x : Except ε α) : Agree R x x := by
  cases x with
  | ok a => exact .ok (hR a)
  | error e => exact .error e e

/-- What agrees with a success is a success. -/
theorem Agree.exists_ok {x y : Except ε α} {a : α} (h : Agree R x y) (hx : x = .ok a) :
    ∃ b, y = .ok b ∧ R a b := by
  cases h with
  | ok hab =>
    cases hx
    exact ⟨_, rfl, hab⟩
  | error e e' => cases hx

end

namespace Decode

variable {α δ : Type} {set : Setter δ} {R : δ → δ → Prop}

/-- What every member keeps up, all members together keep up. -/
theorem takeAll_agree
    (step : ∀ a b, R a b → ∀ name v, Agree R (set a name v) (set b name v)) {a b : δ} (h : R a b)
    (members : List (String × Json)) : Agree R (takeAll set a members) (takeAll set b members) := by
  induction members generalizing a b with
  | nil => exact .ok h
  | cons member rest ih =>
    obtain ⟨name, v⟩ := member
    rw [takeAll_cons, takeAll_cons]
    exact (step a b h name v).bind fun a' b' h' => ih h'

/-- A member may be exchanged for one that is read alike. -/
theorem takeAll_member_agree
    (step : ∀ a b, R a b → ∀ name v, Agree R (set a name v) (set b name v)) {name : String}
    {v v' : Json} (same : ∀ part, Agree R (set part name v) (set part name v')) (part : δ)
    (front back : List (String × Json)) :
    Agree R (takeAll set part (front ++ (name, v) :: back))
      (takeAll set part (front ++ (name, v') :: back)) := by
  rw [takeAll_append, takeAll_append]
  cases takeAll set part front with
  | error e => exact .error e e
  | ok next =>
    show Agree R (takeAll set next ((name, v) :: back)) (takeAll set next ((name, v') :: back))
    rw [takeAll_cons, takeAll_cons]
    exact (same next).bind fun a b h => takeAll_agree step h back

/-- The same where parts are related only to themselves. -/
theorem takeAll_member_agree_eq {name : String} {v v' : Json}
    (same : ∀ part, Agree Eq (set part name v) (set part name v')) (part : δ)
    (front back : List (String × Json)) :
    Agree Eq (takeAll set part (front ++ (name, v) :: back))
      (takeAll set part (front ++ (name, v') :: back)) := by
  apply takeAll_member_agree _ same
  rintro a _ rfl name w
  exact agree_refl (fun _ => rfl) (set a name w)

/-! ### Entries of lists and maps -/

section

variable {read : Json → Decoded α} {Q : α → α → Prop} {v v' : Json}

theorem list_member_agree {front back : List Json} (h : Agree Eq (read v) (read v')) :
    Agree Eq (list read (.array (front ++ v :: back)))
      (list read (.array (front ++ v' :: back))) := by
  rw [list_append, list_append]
  apply agree_bind
  intro f
  rw [list_cons, list_cons]
  have hrest : Agree Eq ((read v).bind fun a => (list read (.array back)).map fun b => a :: b)
      ((read v').bind fun a => (list read (.array back)).map fun b => a :: b) := by
    apply h.bind
    rintro a _ rfl
    exact agree_refl (fun _ => rfl) _
  apply hrest.map
  rintro b _ rfl
  rfl

/-- An entry of a map may be exchanged for one that is read alike, if this makes the maps alike. -/
theorem entries_member_agree {S : List (String × α) → List (String × α) → Prop}
    {front back : List (String × Json)} {key : String} (h : Agree Q (read v) (read v'))
    (hmaps : ∀ f b a a', Q a a' → S (f ++ (key, a) :: b) (f ++ (key, a') :: b)) :
    Agree S (entries read (.object (front ++ (key, v) :: back)))
      (entries read (.object (front ++ (key, v') :: back))) := by
  rw [entries_append, entries_append]
  apply agree_bind
  intro f
  rw [entries_cons, entries_cons]
  -- The entries in front are put before both maps only afterwards, so the maps are compared with
  -- them.
  have hrest : Agree (fun b b' => S (f ++ b) (f ++ b'))
      ((read v).bind fun a => (entries read (.object back)).map fun b => (key, a) :: b)
      ((read v').bind fun a => (entries read (.object back)).map fun b => (key, a) :: b) := by
    apply h.bind
    intro a a' ha
    exact agree_map _ fun b => hmaps f b a a' ha
  exact hrest.map fun _ _ hb => hb

theorem entries_member_agree_eq {front back : List (String × Json)} {key : String}
    (h : Agree Eq (read v) (read v')) :
    Agree Eq (entries read (.object (front ++ (key, v) :: back)))
      (entries read (.object (front ++ (key, v') :: back))) := by
  apply entries_member_agree h
  rintro f b a _ rfl
  rfl

/-- An entry may be added to a map, if it can be read and this makes the maps alike. -/
theorem entries_insert_agree {S : List (String × α) → List (String × α) → Prop}
    {front back : List (String × Json)} {key : String} {a : α} (h : read v = .ok a)
    (hmaps : ∀ f b, S (f ++ b) (f ++ (key, a) :: b)) :
    Agree S (entries read (.object (front ++ back)))
      (entries read (.object (front ++ (key, v) :: back))) := by
  rw [entries_append, entries_append]
  apply agree_bind
  intro f
  rw [entries_cons, h]
  show Agree S ((entries read (.object back)).map fun b => f ++ b)
    (((entries read (.object back)).map fun b => (key, a) :: b).map fun b => f ++ b)
  cases entries read (.object back) with
  | error e => exact .error e e
  | ok b => exact .ok (hmaps f b)

end

end Decode

open Decode

/-! ## Operations that differ in responses -/

/-- Two maps of responses hold the same answer to a successful request. -/
def SameAnswer (responses responses' : List (String × Response)) : Prop :=
  OrderedMap.find? "200" responses' = OrderedMap.find? "200" responses

namespace Operation

/-- Two operations differ in responses that are not looked at, and in nothing else. -/
def Alike (op op' : Operation) : Prop :=
  ∃ responses, op' = { op with responses := responses } ∧ SameAnswer op.responses responses

theorem alike_refl (op : Operation) : op.Alike op := ⟨op.responses, rfl, rfl⟩

theorem Alike.compile_eq {op op' : Operation} (h : op.Alike op') : op'.compile = op.compile := by
  obtain ⟨responses, rfl, hanswer⟩ := h
  have hinto : ∀ links, answerInto { op with responses := responses } links
      = op.answerInto links := by
    intro links
    unfold answerInto answerSchema?
    rw [hanswer]
  -- Responses matter for the type of the answer only.
  unfold compile
  simp only [hinto]
  rfl

/-- Two drafts differ in responses that are not looked at, and in nothing else. -/
def Draft.Alike (d d' : Draft) : Prop :=
  ∃ responses, d' = { d with rest := { d.rest with responses := responses } }
    ∧ SameAnswer d.rest.responses responses

/-- Whatever member drafts take, they stay alike. -/
theorem alike_setMember {d d' : Draft} (h : d.Alike d') (name : String) (v : Json) :
    Agree Draft.Alike (setMember d name v) (setMember d' name v) := by
  obtain ⟨responses, rfl, hanswer⟩ := h
  unfold setMember
  split
  · exact agree_map _ fun s => ⟨responses, rfl, hanswer⟩
  · exact agree_map _ fun ps => ⟨responses, rfl, hanswer⟩
  -- Here the old responses are replaced, so that both drafts hold the same ones.
  · exact agree_map _ fun rs => ⟨rs, rfl, rfl⟩
  · exact agree_map _ fun s => ⟨responses, rfl, hanswer⟩
  · exact agree_map _ fun s => ⟨responses, rfl, hanswer⟩
  · exact .ok ⟨responses, rfl, hanswer⟩

theorem alike_finish {d d' : Draft} (h : d.Alike d') : Agree Alike d.finish d'.finish := by
  obtain ⟨responses, rfl, hanswer⟩ := h
  unfold Draft.finish
  cases d.id with
  | none => exact .error _ _
  | some id => exact .ok ⟨responses, rfl, hanswer⟩

end Operation

/-! ## Documents that differ in such operations -/

/-- Two raw operations stand in the same place, and are read as operations that are alike. -/
structure RawOperation.Alike (raw raw' : RawOperation) : Prop where
  method_eq : raw'.method = raw.method
  template_eq : raw'.template = raw.template
  /-- The values are read alike. -/
  values_agree : Agree Operation.Alike (Operation.decode raw.value) (Operation.decode raw'.value)

theorem RawOperation.alike_refl (raw : RawOperation) : raw.Alike raw :=
  ⟨rfl, rfl, agree_refl Operation.alike_refl _⟩

theorem RawOperation.forall₂_alike_refl (raws : List RawOperation) :
    List.Forall₂ RawOperation.Alike raws raws :=
  List.forall₂_same.mpr fun raw _ => raw.alike_refl

/-- Raw operations that are alike stay so between others. -/
theorem RawOperation.alike_between (front : List RawOperation) {raws raws' : List RawOperation}
    (h : List.Forall₂ RawOperation.Alike raws raws') (back : List RawOperation) :
    List.Forall₂ RawOperation.Alike (front ++ (raws ++ back)) (front ++ (raws' ++ back)) :=
  List.rel_append (forall₂_alike_refl front) (List.rel_append h (forall₂_alike_refl back))

/-- Operations that are read alike are alike in their places. -/
theorem RawOperation.Alike.exists_read {raw raw' : RawOperation} (h : raw.Alike raw')
    {base : String} {op : Operation} (hop : raw.read base = .ok op) :
    ∃ op', raw'.read base = .ok op' ∧ op.Alike op' := by
  obtain ⟨read, hread, rfl⟩ := read_eq_ok_iff.mp hop
  obtain ⟨_, hread', responses, rfl, hanswer⟩ := h.values_agree.exists_ok hread
  refine ⟨_, read_eq_ok_iff.mpr ⟨_, hread', rfl⟩, responses, ?_, hanswer⟩
  rw [h.method_eq, h.template_eq]

namespace Document

/-- Two documents differ in responses that are not looked at, and in what is no operation. -/
structure Alike (d d' : Document) : Prop where
  basePath_eq : d'.basePath = d.basePath
  definitions_eq : d'.definitions = d.definitions
  /-- The operations are alike, one by one. -/
  operations_alike :
    List.Forall₂ RawOperation.Alike (RawOperation.ofPaths d.paths) (RawOperation.ofPaths d'.paths)

theorem alike_refl (d : Document) : d.Alike d :=
  ⟨rfl, rfl, RawOperation.forall₂_alike_refl _⟩

theorem Alike.exists_operations {d d' : Document} (h : d.Alike d') {operations : List Operation}
    (hoperations : d.operations = .ok operations) :
    ∃ operations', d'.operations = .ok operations'
      ∧ List.Forall₂ Operation.Alike operations operations' := by
  have hroot : d'.pathRoot = d.pathRoot := by
    unfold pathRoot
    rw [h.basePath_eq]
  rw [operations_eq, mapM_eq_ok_iff] at hoperations
  simp only [operations_eq, mapM_eq_ok_iff, hroot]
  have hraws := h.operations_alike
  -- Only the entries count from here on, whatever path items they come from.
  generalize RawOperation.ofPaths d.paths = raws at hraws hoperations
  generalize RawOperation.ofPaths d'.paths = raws' at hraws ⊢
  induction hraws generalizing operations with
  | nil =>
    cases hoperations
    exact ⟨[], .nil, .nil⟩
  | cons hraw _ ih =>
    cases hoperations with
    | cons hop hrest =>
      obtain ⟨op', hop', halike⟩ := hraw.exists_read hop
      obtain ⟨rest', hrest', hlater⟩ := ih hrest
      exact ⟨op' :: rest', .cons hop' hrest', .cons halike hlater⟩

end Document

/-! ## Packages of such documents -/

namespace Package

variable {operations operations' : List Operation}

/-- Work that does the same on operations that are alike does the same on all of them. -/
theorem forEach_compile_of_alike (h : List.Forall₂ Operation.Alike operations operations') :
    Logged.forEach Operation.compile operations' = Logged.forEach Operation.compile operations := by
  induction h with
  | nil => rfl
  | cons halike _ ih =>
    unfold Logged.forEach
    rw [halike.compile_eq, ih]

theorem map_id_of_alike (h : List.Forall₂ Operation.Alike operations operations') :
    operations'.map Operation.id = operations.map Operation.id := by
  induction h with
  | nil => rfl
  | cons halike _ ih =>
    obtain ⟨responses, rfl, _⟩ := halike
    rw [List.map_cons, List.map_cons, ih]

theorem undocumentedNotices_of_alike (h : List.Forall₂ Operation.Alike operations operations') :
    undocumentedNotices operations' = undocumentedNotices operations := by
  unfold undocumentedNotices
  induction h with
  | nil => rfl
  | @cons op _ _ _ halike _ ih =>
    obtain ⟨responses, rfl, _⟩ := halike
    -- The texts for readers are among what is the same.
    have hsays : Operation.saysNothing { op with responses := responses } = op.saysNothing := rfl
    rw [List.filter_cons, List.filter_cons, hsays]
    split
    · rw [List.map_cons, List.map_cons, ih]
    · exact ih

theorem assemble_of_alike (h : List.Forall₂ Operation.Alike operations operations')
    (definitions : List (String × Schema)) :
    assemble operations' definitions = assemble operations definitions := by
  unfold assemble
  -- Of the operations only the names, the notices and what is made of them are used.
  rw [map_id_of_alike h, undocumentedNotices_of_alike h, forEach_compile_of_alike h]

end Package

/-- What comes of a document whose operations can be read. -/
theorem Document.compile_eq {d : Document} {operations : List Operation}
    (h : d.operations = .ok operations) :
    d.compile = (Package.assemble operations d.definitions).mapError GenerateError.defect := by
  unfold Document.compile
  rw [h]
  exact Logged.ok_andThen operations fun operations =>
    (Package.assemble operations d.definitions).mapError GenerateError.defect

/-- The same comes of documents that are alike, if any package comes of them. -/
theorem Document.Alike.compile_eq {d d' : Document} (h : d.Alike d') {p : Package}
    (made : d.compile.result = .ok p) : d'.compile = d.compile := by
  obtain ⟨operations, hoperations, _⟩ := Package.assembled_of_compile made
  obtain ⟨operations', hoperations', halike⟩ := h.exists_operations hoperations
  rw [Document.compile_eq hoperations, Document.compile_eq hoperations', h.definitions_eq,
    Package.assemble_of_alike halike]

end ClientGen
