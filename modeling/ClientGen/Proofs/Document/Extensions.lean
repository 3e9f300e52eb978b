import ClientGen.Proofs.Document.Agreement

/-! # Vendor extensions

  A document may hold members of its author's own, with keys that begin with `x-`, in most of its
  objects. Such a member is passed over where a structure is read member by member, and where the
  operations of a path item are looked up by their methods. It is not passed over in the two maps
  whose values are all of one kind: there it is taken for a path item or for a response.

  * **`Site`** and **`Extended`** say where a member is added to a document.
  * **`Site.Alike`**: an object before and after, read alike; it carries over from an object to the
    object around it (`Site.Holds.alike`).
  * **`Site.Spoilt`**: an object that is no longer read as it was; it carries over likewise.
  * **`extension_harmless_iff`**: the same comes of a document exactly if the added member could be
    taken for a path item without operations, or for a response, where it is taken for one. -/

namespace ClientGen

open Decode

abbrev Members := List (String × Json)

def IsExtension (key : String) : Prop := "x-".toList <+: key.toList

/-! ## Places in a document -/

inductive Site where
  | record (kind : RecordKind)
  | paths
  | pathItem
  | responses
  /-- An object that is not looked into. -/
  | elsewhere

namespace Site

/-- How an object stands in another: from its members, the members of the object around it. -/
inductive Holds : Site → Site → (Members → Members) → Prop where
  /-- The path items of a document. Of several members with one name the last would count. -/
  | paths {front back : Members} (once : "paths" ∉ OrderedMap.keys back) :
    Holds (.record .document) .paths fun ms => front ++ ("paths", .object ms) :: back
  | definition {front back before after : Members} {name : String} :
    Holds (.record .document) (.record .schema) fun ms =>
      front ++ ("definitions", .object (before ++ (name, .object ms) :: after)) :: back
  | pathItem {front back : Members} {template : String} :
    Holds .paths .pathItem fun ms => front ++ (template, .object ms) :: back
  | operation {front back : Members} {key : String} {m : HttpMethod}
    (named : HttpMethod.ofKey? key = some m) :
    Holds .pathItem (.record .operation) fun ms => front ++ (key, .object ms) :: back
  | parameter {front back : Members} {before after : List Json} :
    Holds (.record .operation) (.record .parameter) fun ms =>
      front ++ ("parameters", .array (before ++ .object ms :: after)) :: back
  | responses {front back : Members} :
    Holds (.record .operation) .responses fun ms => front ++ ("responses", .object ms) :: back
  | response {front back : Members} {status : String} :
    Holds .responses (.record .response) fun ms => front ++ (status, .object ms) :: back
  | parameterSchema {front back : Members} :
    Holds (.record .parameter) (.record .schema) fun ms => front ++ ("schema", .object ms) :: back
  | parameterItems {front back : Members} :
    Holds (.record .parameter) (.record .schema) fun ms => front ++ ("items", .object ms) :: back
  | responseSchema {front back : Members} :
    Holds (.record .response) (.record .schema) fun ms => front ++ ("schema", .object ms) :: back
  | items {front back : Members} :
    Holds (.record .schema) (.record .schema) fun ms => front ++ ("items", .object ms) :: back
  | property {front back before after : Members} {name : String} :
    Holds (.record .schema) (.record .schema) fun ms =>
      front ++ ("properties", .object (before ++ (name, .object ms) :: after)) :: back

/-- Whether members with a name are passed over in an object. -/
def Skips : Site → String → Prop
  | .record kind, name => name ∉ kind.fields
  | .pathItem, name => HttpMethod.ofKey? name = none
  | _, _ => False

/-- Whether a value can be taken for an entry, where an object takes every member for one. -/
def Tolerates : Site → Json → Prop
  | .paths, v => ∃ item, v = .object item ∧ ∀ m ∈ item, HttpMethod.ofKey? m.1 = none
  | .responses, v => ∃ r, Response.decode v = .ok r
  | _, _ => True

end Site

/-- An object before and after a new member is added to it, or to an object that stands anywhere
    inside it. -/
inductive Extended (new : String × Json) : Site → Site → Members → Members → Prop where
  /-- The member is added to the object itself, anywhere between its members. -/
  | here {site : Site} {front back : Members} (fresh : new.1 ∉ OrderedMap.keys (front ++ back)) :
    Extended new site site (front ++ back) (front ++ new :: back)
  /-- The member is added to an object inside. -/
  | inside {outer inner site : Site} {place : Members → Members} {ms ms' : Members} :
    outer.Holds inner place → Extended new inner site ms ms' →
    Extended new outer site (place ms) (place ms')
  /-- The member is added somewhere below a member that is passed over. -/
  | skipped {outer : Site} {front back : Members} {name : String} {v v' : Json} :
    outer.Skips name →
    Extended new outer .elsewhere (front ++ (name, v) :: back) (front ++ (name, v') :: back)

/-! ## Objects that are read alike -/

def PathsAlike (paths paths' : List (String × Members)) : Prop :=
  List.Forall₂ RawOperation.Alike (RawOperation.ofPaths paths) (RawOperation.ofPaths paths')

def Site.Alike : Site → Members → Members → Prop
  | .record .document, ms, ms' =>
    Agree Document.Alike (Document.decode (.object ms)) (Document.decode (.object ms'))
  | .record .operation, ms, ms' =>
    Agree Operation.Alike (Operation.decode (.object ms)) (Operation.decode (.object ms'))
  | .record .parameter, ms, ms' =>
    Agree Eq (Parameter.decode (.object ms)) (Parameter.decode (.object ms'))
  | .record .response, ms, ms' =>
    Agree Eq (Response.decode (.object ms)) (Response.decode (.object ms'))
  | .record .schema, ms, ms' =>
    Agree Eq (Schema.decode (.object ms)) (Schema.decode (.object ms'))
  | .paths, ms, ms' =>
    Agree PathsAlike (entries (entries .ok) (.object ms)) (entries (entries .ok) (.object ms'))
  | .pathItem, ms, ms' =>
    ∀ template, List.Forall₂ RawOperation.Alike (RawOperation.ofItem template ms)
      (RawOperation.ofItem template ms')
  | .responses, ms, ms' =>
    Agree SameAnswer (entries Response.decode (.object ms)) (entries Response.decode (.object ms'))
  | .elsewhere, _, _ => True

namespace Site

variable {outer inner : Site} {place : Members → Members} {ms ms' : Members}

/-! ### Objects around objects -/

theorem alike_setMember_document {d d' : Document} (h : d.Alike d') (name : String) (v : Json) :
    Agree Document.Alike (Document.setMember d name v) (Document.setMember d' name v) := by
  unfold Document.setMember
  split
  · exact agree_map _ fun s => ⟨rfl, h.definitions_eq, h.operations_alike⟩
  · exact agree_map _ fun ps =>
      ⟨h.basePath_eq, h.definitions_eq, RawOperation.forall₂_alike_refl _⟩
  · exact agree_map _ fun ds => ⟨h.basePath_eq, rfl, h.operations_alike⟩
  · exact .ok h

/-- Operations are alike if they differ in a member that drafts take alike. -/
theorem alike_decode_operation {front back : Members} {name : String} {v v' : Json}
    (h : ∀ d, Agree Operation.Draft.Alike (Operation.setMember d name v)
      (Operation.setMember d name v')) :
    (record .operation).Alike (front ++ (name, v) :: back) (front ++ (name, v') :: back) := by
  show Agree Operation.Alike (Operation.decode _) (Operation.decode _)
  rw [Operation.decode_eq, Operation.decode_eq]
  have hdrafts := takeAll_member_agree (fun _ _ => Operation.alike_setMember) h {} front back
  exact hdrafts.bind fun _ _ => Operation.alike_finish

/-- A structure may hold one of two schema nodes that are read alike. -/
theorem takeAll_schema_agree {δ : Type} {set : Setter δ} {name : String}
    {put : δ → Option Schema → δ} {front back : Members}
    (reads : ∀ part v, set part name v = (optional Schema.decode v).map (put part))
    (same : (record .schema).Alike ms ms') (part : δ) :
    Agree Eq (takeAll set part (front ++ (name, .object ms) :: back))
      (takeAll set part (front ++ (name, .object ms') :: back)) := by
  have hschema : Agree Eq (Schema.decode (.object ms)) (Schema.decode (.object ms')) := same
  have hread : Agree Eq (optional Schema.decode (.object ms))
      (optional Schema.decode (.object ms')) := hschema.map fun _ _ heq => congrArg some heq
  apply takeAll_member_agree_eq
  intro part
  rw [reads, reads]
  exact hread.map fun _ _ heq => congrArg (put part) heq

/-- An object that is read alike makes the object around it be read alike. -/
theorem Holds.alike (h : outer.Holds inner place) (same : inner.Alike ms ms') :
    outer.Alike (place ms) (place ms') := by
  cases h with
  | paths once =>
    have hpaths : Agree PathsAlike (entries (entries .ok) (.object ms))
      (entries (entries .ok) (.object ms')) := same
    apply takeAll_member_agree fun _ _ => alike_setMember_document
    intro d
    rw [Document.setMember_paths, Document.setMember_paths]
    -- What the document has taken before is the same; only its path items may differ.
    exact hpaths.map fun _ _ halike => ⟨rfl, rfl, halike⟩
  | definition =>
    have hschema : Agree Eq (Schema.decode (.object ms)) (Schema.decode (.object ms')) := same
    apply takeAll_member_agree fun _ _ => alike_setMember_document
    intro d
    rw [Document.setMember_definitions, Document.setMember_definitions]
    apply (entries_member_agree_eq hschema).map
    rintro ds _ rfl
    exact Document.alike_refl _
  | pathItem =>
    have hitem : ∀ template, List.Forall₂ RawOperation.Alike (RawOperation.ofItem template ms)
      (RawOperation.ofItem template ms') := same
    -- A path item is kept as it is, so it can be read with every extension.
    have hread : Agree
        (fun item item' => ∀ template, List.Forall₂ RawOperation.Alike
          (RawOperation.ofItem template item) (RawOperation.ofItem template item'))
        (entries .ok (.object ms)) (entries .ok (.object ms')) := by
      rw [entries_ok, entries_ok]
      exact .ok hitem
    apply entries_member_agree hread
    intro f b item item' halike
    show List.Forall₂ RawOperation.Alike _ _
    rw [RawOperation.ofPaths_append, RawOperation.ofPaths_append, RawOperation.ofPaths_cons,
      RawOperation.ofPaths_cons]
    exact RawOperation.alike_between _ (halike _) _
  | @operation front back key m named =>
    have hoperation : Agree Operation.Alike (Operation.decode (.object ms))
      (Operation.decode (.object ms')) := same
    intro template
    have hraw : List.Forall₂ RawOperation.Alike [⟨m, template, .object ms⟩]
        [⟨m, template, .object ms'⟩] := .cons ⟨rfl, rfl, hoperation⟩ .nil
    rw [RawOperation.ofItem_append, RawOperation.ofItem_append, RawOperation.ofItem_cons named,
      RawOperation.ofItem_cons named]
    exact RawOperation.alike_between _ hraw _
  | parameter =>
    have hparameter : Agree Eq (Parameter.decode (.object ms)) (Parameter.decode (.object ms')) :=
      same
    apply alike_decode_operation
    intro d
    rw [Operation.setMember_parameters, Operation.setMember_parameters]
    apply (list_member_agree hparameter).map
    rintro ps _ rfl
    exact ⟨_, rfl, rfl⟩
  | responses =>
    have hresponses : Agree SameAnswer (entries Response.decode (.object ms))
      (entries Response.decode (.object ms')) := same
    apply alike_decode_operation
    intro d
    rw [Operation.setMember_responses, Operation.setMember_responses]
    exact hresponses.map fun rs rs' hanswer => ⟨rs', rfl, hanswer⟩
  | response =>
    have hresponse : Agree Eq (Response.decode (.object ms)) (Response.decode (.object ms')) := same
    apply entries_member_agree hresponse
    rintro f b a _ rfl
    rfl
  | parameterSchema => exact takeAll_schema_agree Parameter.setMember_schema same _
  | parameterItems => exact takeAll_schema_agree Parameter.setMember_items same _
  | responseSchema => exact takeAll_schema_agree Response.setMember_schema same _
  | items =>
    have hitems : Agree Eq (Schema.decode (.object ms)) (Schema.decode (.object ms')) := same
    show Agree Eq (Schema.decode _) (Schema.decode _)
    rw [Schema.decode_object, Schema.decode_object]
    apply takeAll_member_agree_eq
    intro s
    rw [Schema.take_items (by simp), Schema.take_items (by simp)]
    exact hitems.map fun _ _ heq => by rw [heq]
  | property =>
    have hschema : Agree Eq (Schema.decode (.object ms)) (Schema.decode (.object ms')) := same
    show Agree Eq (Schema.decode _) (Schema.decode _)
    rw [Schema.decode_object, Schema.decode_object]
    apply takeAll_member_agree_eq
    intro s
    rw [Schema.take_properties, Schema.take_properties]
    exact (entries_member_agree_eq hschema).map fun _ _ heq => by rw [heq]

end Site

/-! ## Objects that are not read as before -/

/-- There are more operations than before, or one of them cannot be read. -/
def Outgrown (raws raws' : List RawOperation) : Prop :=
  raws.length < raws'.length ∨ ∃ raw ∈ raws', ∀ op, Operation.decode raw.value ≠ .ok op

/-- The second of two objects at one place is not read as the first is. -/
def Site.Spoilt : Site → Members → Members → Prop
  | .record .document, ms, ms' =>
    ∀ d d', Document.decode (.object ms) = .ok d → Document.decode (.object ms') = .ok d' →
      Outgrown (RawOperation.ofPaths d.paths) (RawOperation.ofPaths d'.paths)
  | .record .operation, _, ms' => ∀ op, Operation.decode (.object ms') ≠ .ok op
  | .paths, ms, ms' =>
    ∀ ps ps', entries (entries .ok) (.object ms) = .ok ps →
      entries (entries .ok) (.object ms') = .ok ps' →
      Outgrown (RawOperation.ofPaths ps) (RawOperation.ofPaths ps')
  | .pathItem, _, ms' =>
    ∀ template, ∃ raw ∈ RawOperation.ofItem template ms', ∀ op,
      Operation.decode raw.value ≠ .ok op
  | .responses, _, ms' => ∀ rs, entries Response.decode (.object ms') ≠ .ok rs
  | _, _, _ => False

/-- Members that are not called `paths` leave the path items as they are. -/
theorem Document.paths_setMember {d next : Document} {name : String} {v : Json}
    (h : name ≠ "paths") (hset : setMember d name v = .ok next) : next.paths = d.paths := by
  unfold setMember at hset
  split at hset
  · obtain ⟨s, _, rfl⟩ := map_eq_ok_iff.mp hset
    rfl
  · exact absurd rfl h
  · obtain ⟨ds, _, rfl⟩ := map_eq_ok_iff.mp hset
    rfl
  · cases hset
    rfl

/-- The path items of a document are those of its last member `paths`. -/
theorem Document.paths_of_decode {front back : Members} {v : Json} {d : Document}
    (once : "paths" ∉ OrderedMap.keys back)
    (h : decode (.object (front ++ ("paths", v) :: back)) = .ok d) :
    entries (entries .ok) v = .ok d.paths := by
  have hmembers : takeAll setMember {} (front ++ ("paths", v) :: back) = .ok d := h
  rw [takeAll_append] at hmembers
  obtain ⟨before, _, hrest⟩ := bind_eq_ok_iff.mp hmembers
  rw [takeAll_cons, setMember_paths] at hrest
  obtain ⟨_, hset, hback⟩ := bind_eq_ok_iff.mp hrest
  obtain ⟨ps, hps, rfl⟩ := map_eq_ok_iff.mp hset
  -- No later member has the name, so what was taken from this one stays.
  have hkept := takeAll_preserves Document.paths
    (fun d name w next hname => paths_setMember fun heq => once (heq ▸ hname)) hback
  rw [hkept, hps]

namespace Site

variable {outer inner : Site} {place : Members → Members} {ms ms' : Members}

/-- An object that is not read as before makes the object around it be not read as before. -/
theorem Holds.spoilt (h : outer.Holds inner place) (spoilt : inner.Spoilt ms ms') :
    outer.Spoilt (place ms) (place ms') := by
  cases h with
  | paths once =>
    have hpaths : ∀ ps ps', entries (entries .ok) (.object ms) = .ok ps →
      entries (entries .ok) (.object ms') = .ok ps' →
      Outgrown (RawOperation.ofPaths ps) (RawOperation.ofPaths ps') := spoilt
    intro d d' hd hd'
    -- Documents that can be read have path items that can be read.
    exact hpaths _ _ (Document.paths_of_decode once hd) (Document.paths_of_decode once hd')
  | pathItem =>
    have hitem : ∀ template, ∃ raw ∈ RawOperation.ofItem template ms', ∀ op,
      Operation.decode raw.value ≠ .ok op := spoilt
    intro ps ps' _ hps'
    obtain ⟨f, item, b, _, hread, _, rfl⟩ := entries_middle_eq_ok_iff.mp hps'
    rw [entries_ok] at hread
    cases hread
    obtain ⟨raw, hraw, hbad⟩ := hitem _
    refine Or.inr ⟨raw, ?_, hbad⟩
    rw [RawOperation.ofPaths_append, RawOperation.ofPaths_cons]
    exact List.mem_append_right _ (List.mem_append_left _ hraw)
  | @operation front back key m named =>
    have hoperation : ∀ op, Operation.decode (.object ms') ≠ .ok op := spoilt
    intro template
    refine ⟨⟨m, template, .object ms'⟩, ?_, hoperation⟩
    rw [RawOperation.ofItem_append, RawOperation.ofItem_cons named]
    exact List.mem_append_right _ (List.mem_cons_self ..)
  | responses =>
    have hresponses : ∀ rs, entries Response.decode (.object ms') ≠ .ok rs := spoilt
    intro op hop
    rw [Operation.decode_eq] at hop
    obtain ⟨d, hd, _⟩ := bind_eq_ok_iff.mp hop
    -- No draft takes the member, so no draft becomes the operation.
    apply takeAll_member_ne_ok _ _ _ _ _ hd
    intro part next hnext
    rw [Operation.setMember_responses] at hnext
    obtain ⟨rs, hrs, _⟩ := map_eq_ok_iff.mp hnext
    exact hresponses rs hrs
  | definition => cases spoilt
  | parameter => cases spoilt
  | response => cases spoilt
  | parameterSchema => cases spoilt
  | parameterItems => cases spoilt
  | responseSchema => cases spoilt
  | items => cases spoilt
  | property => cases spoilt

end Site

/-! ## Keys of vendor extensions -/

theorem IsExtension.head? {key : String} (h : IsExtension key) : key.toList.head? = some 'x' := by
  obtain ⟨rest, hrest⟩ := h
  rw [← hrest]
  rfl

theorem IsExtension.not_mem_fields {key : String} (h : IsExtension key) (kind : RecordKind) :
    key ∉ kind.fields := by
  intro hmem
  have hfields : ∀ field ∈ kind.fields, field.toList.head? ≠ some 'x' := by
    cases kind <;> decide
  exact hfields key hmem h.head?

theorem IsExtension.ofKey?_eq_none {key : String} (h : IsExtension key) :
    HttpMethod.ofKey? key = none := by
  cases hkey : HttpMethod.ofKey? key with
  | none => rfl
  | some m =>
    have hhead := congrArg List.head? (HttpMethod.ofKey?_eq_some_iff.mp hkey)
    rw [List.head?_map, h.head?] at hhead
    cases m <;> exact absurd hhead (by decide)

theorem IsExtension.ne_answer {key : String} (h : IsExtension key) : key ≠ "200" := by
  rintro rfl
  exact absurd h.head? (by decide)

/-! ## A member more -/

namespace Site

variable {front middle middle' back : Members} {key : String} {v : Json}

/-- Members with names of no field may be exchanged for others of that kind. -/
theorem alike_record {kind : RecordKind} (h : ∀ m ∈ middle, m.1 ∉ kind.fields)
    (h' : ∀ m ∈ middle', m.1 ∉ kind.fields) :
    (record kind).Alike (front ++ (middle ++ back)) (front ++ (middle' ++ back)) := by
  -- Each kind has a setter of its own, but no setter takes anything of a member without a field.
  cases kind with
  | document =>
    show Agree Document.Alike (takeAll _ _ _) (takeAll _ _ _)
    rw [takeAll_ignored fun m hm => Document.ignores_setMember (h m hm),
      takeAll_ignored fun m hm => Document.ignores_setMember (h' m hm)]
    exact agree_refl Document.alike_refl _
  | operation =>
    show Agree Operation.Alike (Operation.decode _) (Operation.decode _)
    rw [Operation.decode_eq, Operation.decode_eq, record_object, record_object,
      takeAll_ignored fun m hm => Operation.ignores_setMember (h m hm),
      takeAll_ignored fun m hm => Operation.ignores_setMember (h' m hm)]
    exact agree_refl Operation.alike_refl _
  | parameter =>
    show Agree Eq (takeAll _ _ _) (takeAll _ _ _)
    rw [takeAll_ignored fun m hm => Parameter.ignores_setMember (h m hm),
      takeAll_ignored fun m hm => Parameter.ignores_setMember (h' m hm)]
    exact agree_refl (fun _ => rfl) _
  | response =>
    show Agree Eq (takeAll _ _ _) (takeAll _ _ _)
    rw [takeAll_ignored fun m hm => Response.ignores_setMember (h m hm),
      takeAll_ignored fun m hm => Response.ignores_setMember (h' m hm)]
    exact agree_refl (fun _ => rfl) _
  | schema =>
    show Agree Eq (Schema.decode _) (Schema.decode _)
    rw [Schema.decode_object, Schema.decode_object,
      takeAll_ignored fun m hm => Schema.ignores_take (h m hm),
      takeAll_ignored fun m hm => Schema.ignores_take (h' m hm)]
    exact agree_refl (fun _ => rfl) _

/-- Members of a path item that name no methods may be exchanged for others of that kind. -/
theorem alike_pathItem (h : ∀ m ∈ middle, HttpMethod.ofKey? m.1 = none)
    (h' : ∀ m ∈ middle', HttpMethod.ofKey? m.1 = none) :
    pathItem.Alike (front ++ (middle ++ back)) (front ++ (middle' ++ back)) := by
  intro template
  simp only [RawOperation.ofItem_append, RawOperation.ofItem_eq_nil h,
    RawOperation.ofItem_eq_nil h']
  exact RawOperation.forall₂_alike_refl _

/-- An object that tolerates a vendor extension is read alike with it. -/
theorem alike_insert {site : Site} (extension : IsExtension key) (h : site.Tolerates v) :
    site.Alike (front ++ back) (front ++ (key, v) :: back) := by
  cases site with
  | record kind =>
    have hnew : ∀ m ∈ [(key, v)], m.1 ∉ kind.fields :=
      List.forall_mem_singleton.mpr (extension.not_mem_fields kind)
    exact alike_record (List.forall_mem_nil _) hnew
  | pathItem =>
    have hnew : ∀ m ∈ [(key, v)], HttpMethod.ofKey? m.1 = none :=
      List.forall_mem_singleton.mpr extension.ofKey?_eq_none
    exact alike_pathItem (List.forall_mem_nil _) hnew
  | paths =>
    -- The member is read as a path item here, one without operations.
    obtain ⟨item, rfl, hitem⟩ : ∃ item, v = .object item ∧ _ := h
    apply entries_insert_agree (entries_ok item)
    intro f b
    show List.Forall₂ RawOperation.Alike _ _
    rw [RawOperation.ofPaths_append, RawOperation.ofPaths_append, RawOperation.ofPaths_cons,
      RawOperation.ofItem_eq_nil hitem]
    exact RawOperation.forall₂_alike_refl _
  | responses =>
    -- Here it is read as a response, to a status that is not looked up.
    obtain ⟨r, hr⟩ : ∃ r, Response.decode v = .ok r := h
    apply entries_insert_agree hr
    intro f b
    exact OrderedMap.find?_append_of_ne extension.ne_answer f r b
  | elsewhere => trivial

/-- An object that does not tolerate a member is not read as before with it. -/
theorem spoilt_insert {site : Site} (h : ¬ site.Tolerates v) :
    site.Spoilt (front ++ back) (front ++ (key, v) :: back) := by
  cases site with
  | paths =>
    intro ps ps' hps hps'
    obtain ⟨f, item, b, hf, hread, hb, rfl⟩ := entries_middle_eq_ok_iff.mp hps'
    rw [entries_append, hf] at hps
    obtain ⟨b', hb', rfl⟩ := map_eq_ok_iff.mp hps
    obtain rfl : b = b' := Except.ok.inj (hb.symm.trans hb')
    -- The member is an object, so one of its members names a method, and makes an operation.
    have hobject : v = .object item := by
      cases v with
      | object ms =>
        rw [entries_ok] at hread
        rw [Except.ok.inj hread]
      | _ => cases hread
    have hmore : RawOperation.ofItem key item ≠ [] := by
      intro hnil
      exact h ⟨item, hobject, RawOperation.ofItem_eq_nil_iff.mp hnil⟩
    have hlength := List.length_pos_iff.mpr hmore
    refine Or.inl ?_
    simp only [RawOperation.ofPaths_append, RawOperation.ofPaths_cons, List.length_append]
    omega
  | responses =>
    intro rs hrs
    obtain ⟨_, r, _, _, hread, _⟩ := entries_middle_eq_ok_iff.mp hrs
    exact h ⟨r, hread⟩
  | record kind => exact absurd trivial h
  | pathItem => exact absurd trivial h
  | elsewhere => exact absurd trivial h

end Site

namespace Extended

variable {new : String × Json} {outer site : Site} {ms ms' : Members}

/-- An object with a vendor extension somewhere inside is read alike, if the extension is tolerated
    where it stands. -/
theorem alike (h : Extended new outer site ms ms') (extension : IsExtension new.1)
    (tolerated : site.Tolerates new.2) : outer.Alike ms ms' := by
  induction h with
  | here _ => exact Site.alike_insert extension tolerated
  | inside hholds _ ih => exact hholds.alike (ih tolerated)
  | @skipped outer front back name v v' hskips =>
    -- Only structures and path items have members that are passed over.
    cases outer with
    | record kind =>
      have hskipped : ∀ w : Json, ∀ m ∈ [(name, w)], m.1 ∉ kind.fields := fun w =>
        List.forall_mem_singleton.mpr hskips
      exact Site.alike_record (hskipped v) (hskipped v')
    | pathItem =>
      have hskipped : ∀ w : Json, ∀ m ∈ [(name, w)], HttpMethod.ofKey? m.1 = none := fun w =>
        List.forall_mem_singleton.mpr hskips
      exact Site.alike_pathItem (hskipped v) (hskipped v')
    | paths => cases hskips
    | responses => cases hskips
    | elsewhere => cases hskips

theorem spoilt (h : Extended new outer site ms ms') (refused : ¬ site.Tolerates new.2) :
    outer.Spoilt ms ms' := by
  induction h with
  | here _ => exact Site.spoilt_insert refused
  | inside hholds _ ih => exact hholds.spoilt (ih refused)
  | skipped _ => exact absurd trivial refused

end Extended

/-- The package of a document that is not read as before is another one. -/
theorem Document.package_ne_of_outgrown {d d' : Document} {p : Package}
    (made : d.compile.result = .ok p)
    (h : Outgrown (RawOperation.ofPaths d.paths) (RawOperation.ofPaths d'.paths)) :
    d'.compile.result ≠ .ok p := by
  intro made'
  obtain ⟨operations, hoperations, rfl⟩ := Package.eq_packageOf_of_compile made
  obtain ⟨operations', hoperations', hsame⟩ := Package.eq_packageOf_of_compile made'
  rw [operations_eq, mapM_eq_ok_iff] at hoperations hoperations'
  rcases h with hmore | ⟨raw, hraw, hbad⟩
  · -- Every operation makes one unit.
    have hunits : operations.length = operations'.length := by
      have hlength := congrArg (fun p => p.operations.length) hsame
      simpa [Package.packageOf] using hlength
    rw [hoperations.length_eq, hoperations'.length_eq, hunits] at hmore
    exact Nat.lt_irrefl _ hmore
  · obtain ⟨op, _, hop⟩ := exists_of_forall₂ hoperations' hraw
    obtain ⟨read, hread, _⟩ := RawOperation.read_eq_ok_iff.mp hop
    exact hbad read hread

/-- **Vendor extensions**: a member of the author's own that is added anywhere to a document, or
    inside of it, makes no difference exactly if it could be an entry of the map that it is added
    to. Only two maps ask for that: the path items, in which it must hold no operation, and the
    responses of an operation. -/
theorem extension_harmless_iff {new : String × Json} {site : Site} {ms ms' : Members}
    {d : Document} {p : Package} (extension : IsExtension new.1)
    (extended : Extended new (.record .document) site ms ms')
    (read : Document.decode (.object ms) = .ok d) (made : d.compile.result = .ok p) :
    ((∃ d', Document.decode (.object ms') = .ok d' ∧ d'.compile.result = .ok p)
        ↔ site.Tolerates new.2)
      ∧ (site.Tolerates new.2 →
          ∃ d', Document.decode (.object ms') = .ok d' ∧ d'.compile = d.compile) := by
  have harmless : site.Tolerates new.2 →
      ∃ d', Document.decode (.object ms') = .ok d' ∧ d'.compile = d.compile := by
    intro tolerated
    have hagree : Agree Document.Alike (Document.decode (.object ms))
        (Document.decode (.object ms')) := extended.alike extension tolerated
    obtain ⟨d', hd', halike⟩ := hagree.exists_ok read
    exact ⟨d', hd', halike.compile_eq made⟩
  refine ⟨⟨?necessary, ?sufficient⟩, harmless⟩
  case necessary =>
    rintro ⟨d', hd', hp⟩
    by_contra refused
    -- A value that is not tolerated but read adds an operation or spoils one.
    have houtgrown : Outgrown (RawOperation.ofPaths d.paths) (RawOperation.ofPaths d'.paths) :=
      extended.spoilt refused d d' read hd'
    exact Document.package_ne_of_outgrown made houtgrown hp
  case sufficient =>
    intro tolerated
    obtain ⟨d', hd', hsame⟩ := harmless tolerated
    exact ⟨d', hd', by rw [hsame, made]⟩

/-- A document with the given members in the schema of a property of the body of a request. -/
def bodyTag (tag : Members) : Members :=
  [("swagger", .string "2.0"),
   ("paths", .object [("/pets/\x7bpetId\x7d", .object
     [("put", .object
       [("operationId", .string "replacePet"),
        ("parameters", .array
          [.object [("name", .string "petId"), ("in", .string "path"), ("required", .bool true)],
           .object [("name", .string "pet"), ("in", .string "body"),
             ("schema", .object [("type", .string "object"),
               ("properties", .object [("tag", .object tag)])])]])])])])]

/-- A list of notes in the schema of a property makes no difference. -/
theorem extension_harmless_bodyTag :
    IsExtension "x-notes"
      ∧ Extended ("x-notes", .array [.null]) (.record .document) (.record .schema)
          (bodyTag [("type", .string "string")])
          (bodyTag [("x-notes", .array [.null]), ("type", .string "string")])
      ∧ ∃ d d' p, Document.decode (.object (bodyTag [("type", .string "string")])) = .ok d
        ∧ d.compile.result = .ok p
        ∧ Document.decode
            (.object (bodyTag [("x-notes", .array [.null]), ("type", .string "string")])) = .ok d'
        ∧ d'.compile.result = .ok p := by
  have extension : IsExtension "x-notes" := ⟨"notes".toList, rfl⟩
  have extended : Extended ("x-notes", .array [.null]) (.record .document) (.record .schema)
      (bodyTag [("type", .string "string")])
      (bodyTag [("x-notes", .array [.null]), ("type", .string "string")]) := by
    apply Extended.inside (@Site.Holds.paths [("swagger", .string "2.0")] [] (by decide))
    apply Extended.inside (@Site.Holds.pathItem [] [] _)
    apply Extended.inside (@Site.Holds.operation [] [] "put" .put rfl)
    apply Extended.inside (@Site.Holds.parameter [("operationId", .string "replacePet")] [] [_] [])
    apply Extended.inside (@Site.Holds.parameterSchema [_, _] [])
    apply Extended.inside (@Site.Holds.property [_] [] [] [] _)
    exact @Extended.here _ _ [] [("type", .string "string")] (by decide)
  obtain ⟨d', hd', hp⟩ := (extension_harmless_iff extension extended rfl rfl).1.mpr trivial
  exact ⟨extension, extended, _, d', _, rfl, rfl, hd', hp⟩

/-- A document without operations, with the given path items. -/
def pathsOnly (paths : Members) : Members :=
  [("swagger", .string "2.0"), ("paths", .object paths)]

/-- A document with one operation, with the given responses. -/
def responsesOnly (responses : Members) : Members :=
  pathsOnly [("/pets", .object [("get", .object
    [("operationId", .string "listPets"), ("summary", .string "All pets"),
     ("responses", .object responses)])])]

/-- A flag among the path items is taken for a path item, so the document is refused; a number among
    the responses of an operation is taken for a response, so the operation is. -/
theorem extension_takenForEntry :
    (IsExtension "x-internal"
      ∧ Extended ("x-internal", .bool true) (.record .document) .paths (pathsOnly [])
          (pathsOnly [("x-internal", .bool true)])
      ∧ (∃ d p, Document.decode (.object (pathsOnly [])) = .ok d ∧ d.compile.result = .ok p)
      ∧ ∀ d, Document.decode (.object (pathsOnly [("x-internal", .bool true)])) ≠ .ok d)
    ∧ IsExtension "x-note"
      ∧ Extended ("x-note", .number (.integer 5)) (.record .document) .responses (responsesOnly [])
          (responsesOnly [("x-note", .number (.integer 5))])
      ∧ (∃ d p, Document.decode (.object (responsesOnly [])) = .ok d ∧ d.compile.result = .ok p)
      ∧ ∃ d, Document.decode (.object (responsesOnly [("x-note", .number (.integer 5))])) = .ok d
        ∧ ∀ p, d.compile.result ≠ .ok p := by
  have flagged : Extended ("x-internal", .bool true) (.record .document) .paths (pathsOnly [])
      (pathsOnly [("x-internal", .bool true)]) := by
    apply Extended.inside (@Site.Holds.paths [("swagger", .string "2.0")] [] (by decide))
    exact @Extended.here _ _ [] [] (by decide)
  have noted : Extended ("x-note", .number (.integer 5)) (.record .document) .responses
      (responsesOnly []) (responsesOnly [("x-note", .number (.integer 5))]) := by
    apply Extended.inside (@Site.Holds.paths [("swagger", .string "2.0")] [] (by decide))
    apply Extended.inside (@Site.Holds.pathItem [] [] _)
    apply Extended.inside (@Site.Holds.operation [] [] "get" .get rfl)
    apply Extended.inside (@Site.Holds.responses [_, _] [])
    exact @Extended.here _ _ [] [] (by decide)
  refine ⟨⟨⟨"internal".toList, rfl⟩, flagged, ⟨_, _, rfl, rfl⟩, ?refused⟩,
    ⟨"note".toList, rfl⟩, noted, ⟨_, _, rfl, rfl⟩, _, rfl, ?unread⟩
  case refused =>
    intro d h
    cases h
  case unread =>
    intro p h
    cases h

end ClientGen
