import Mathlib.Data.List.Forall2
import Mathlib.Data.List.Nodup
import ClientGen.Document.Operations
import ClientGen.Proofs.Document.Records

/-! # The operations of a document, one by one

  Flattening walks through two levels of maps and stops at the first value that is no operation.
  The walk itself does not look into the values, so it can be taken apart:

  * **`RawOperation.ofPaths`** lists the values under keys that name methods, with the method and
    the path template of each.
  * **`operations_eq`**: the operations of a document are these, read one after the other.

  So an operation has the method and the path of the value it was read from, and two of them have
  both in common exactly if two keys of one path item name one method (`targets_nodup_iff`). -/

namespace ClientGen

/-! ## Methods and keys -/

namespace HttpMethod

/-- The key that names a method, in small letters. -/
def key : HttpMethod → String
  | .get => "get"
  | .put => "put"
  | .post => "post"
  | .delete => "delete"
  | .options => "options"
  | .head => "head"
  | .patch => "patch"

/-- A key names a method if it is that of the method in some mixture of ASCII case. -/
theorem ofKey?_eq_some_iff {k : String} {m : HttpMethod} :
    ofKey? k = some m ↔ k.toList.map Char.toLower = m.key.toList := by
  have hlower : k.toList.map Char.toLower = m.key.toList
      ↔ String.ofList (k.toList.map Char.toLower) = m.key := by
    rw [← String.toList_inj, String.toList_ofList]
  rw [hlower]
  unfold ofKey?
  constructor
  · intro h
    split at h <;> first | (cases h; assumption) | cases h
  · intro h
    rw [h]
    cases m <;> rfl

end HttpMethod

/-! ## Work on a list that may fail -/

/-- Work on a list succeeds if it does on each entry. -/
theorem mapM_eq_ok_iff {ε α β : Type} {f : α → Except ε β} {as : List α} {bs : List β} :
    as.mapM f = .ok bs ↔ List.Forall₂ (fun a b => f a = .ok b) as bs := by
  induction as generalizing bs with
  | nil =>
    rw [List.mapM_nil, List.forall₂_nil_left_iff]
    exact ⟨fun h => (Except.ok.inj h).symm, fun h => congrArg Except.ok h.symm⟩
  | cons a rest ih =>
    -- The step in terms of `Except.bind` and `Except.map`, which have lemmas about success.
    have hcons : (a :: rest).mapM f
        = (f a).bind fun b => (rest.mapM f).map fun done => b :: done := by
      rw [List.mapM_cons]
      rfl
    rw [hcons, bind_eq_ok_iff, List.forall₂_cons_left_iff]
    simp only [map_eq_ok_iff, ih]
    constructor
    · intro ⟨b, hb, done, hdone, hbs⟩
      exact ⟨b, done, hb, hdone, hbs.symm⟩
    · intro ⟨b, done, hb, hdone, hbs⟩
      exact ⟨b, hb, done, hdone, hbs.symm⟩

/-- Related lists have an entry for each entry. -/
theorem exists_of_forall₂ {α β : Type} {R : α → β → Prop} {as : List α} {bs : List β}
    (h : List.Forall₂ R as bs) {a : α} (ha : a ∈ as) : ∃ b ∈ bs, R a b := by
  induction h with
  | nil => cases ha
  | cons hab _ ih =>
    rcases List.mem_cons.mp ha with rfl | ha
    · exact ⟨_, List.mem_cons_self .., hab⟩
    · obtain ⟨b, hb, hR⟩ := ih ha
      exact ⟨b, List.mem_cons_of_mem _ hb, hR⟩

/-! ## Operations that are not read yet -/

structure RawOperation where
  method : HttpMethod
  /-- The template of the path that it stands under. -/
  template : String
  value : Json

namespace RawOperation

def ofItem (template : String) (item : List (String × Json)) : List RawOperation :=
  item.filterMap fun member =>
    (HttpMethod.ofKey? member.1).map fun method => ⟨method, template, member.2⟩

theorem ofItem_append (template : String) (front back : List (String × Json)) :
    ofItem template (front ++ back) = ofItem template front ++ ofItem template back :=
  List.filterMap_append

theorem ofItem_cons {key : String} {method : HttpMethod} (h : HttpMethod.ofKey? key = some method)
    (template : String) (v : Json) (rest : List (String × Json)) :
    ofItem template ((key, v) :: rest) = ⟨method, template, v⟩ :: ofItem template rest := by
  simp [ofItem, h]

theorem ofItem_eq_nil_iff {template : String} {item : List (String × Json)} :
    ofItem template item = [] ↔ ∀ m ∈ item, HttpMethod.ofKey? m.1 = none := by
  simp [ofItem]

theorem ofItem_eq_nil {template : String} {item : List (String × Json)}
    (h : ∀ m ∈ item, HttpMethod.ofKey? m.1 = none) : ofItem template item = [] :=
  ofItem_eq_nil_iff.mpr h

theorem ofItem_skip {key : String} (h : HttpMethod.ofKey? key = none) (template : String)
    (v : Json) (rest : List (String × Json)) :
    ofItem template ((key, v) :: rest) = ofItem template rest := by
  simp [ofItem, h]

def ofPaths (paths : List (String × List (String × Json))) : List RawOperation :=
  paths.flatMap fun path => ofItem path.1 path.2

theorem ofPaths_append (front back : List (String × List (String × Json))) :
    ofPaths (front ++ back) = ofPaths front ++ ofPaths back :=
  List.flatMap_append

theorem ofPaths_cons (template : String) (item : List (String × Json))
    (rest : List (String × List (String × Json))) :
    ofPaths ((template, item) :: rest) = ofItem template item ++ ofPaths rest := rfl

/-- Reads an operation and puts it in its place, below `base`. -/
def read (base : String) (raw : RawOperation) : Except InvalidOperation Operation :=
  match Operation.decode raw.value with
  | .error cause => .error ⟨raw.method, raw.template, cause⟩
  | .ok op => .ok { op with method := raw.method, path := base ++ raw.template }

theorem read_eq_ok_iff {base : String} {raw : RawOperation} {op : Operation} :
    raw.read base = .ok op
      ↔ ∃ read, Operation.decode raw.value = .ok read
        ∧ { read with method := raw.method, path := base ++ raw.template } = op := by
  unfold read
  cases Operation.decode raw.value <;> simp

end RawOperation

namespace Document

open RawOperation

theorem itemOperations_eq (base template : String) (item : List (String × Json)) :
    itemOperations base template item = (ofItem template item).mapM (RawOperation.read base) := by
  induction item with
  | nil => rfl
  | cons member rest ih =>
    obtain ⟨key, v⟩ := member
    -- Members whose keys name no method are skipped by both.
    cases hkey : HttpMethod.ofKey? key with
    | none => simp only [itemOperations, hkey, ofItem_skip hkey, ih]
    | some method =>
      simp only [itemOperations, hkey, ofItem_cons hkey, ih, List.mapM_cons, RawOperation.read]
      cases Operation.decode v with
      | error cause => rfl
      | ok op => cases List.mapM (RawOperation.read base) (ofItem template rest) <;> rfl

theorem pathOperations_eq (base : String) (paths : List (String × List (String × Json))) :
    pathOperations base paths = (ofPaths paths).mapM (RawOperation.read base) := by
  induction paths with
  | nil => rfl
  | cons path rest ih =>
    obtain ⟨template, item⟩ := path
    rw [pathOperations, itemOperations_eq, ih, ofPaths_cons, List.mapM_append]

/-- The operations of a document are read one after the other. -/
theorem operations_eq (d : Document) :
    d.operations = (ofPaths d.paths).mapM (RawOperation.read d.pathRoot) :=
  pathOperations_eq d.pathRoot d.paths

/-! ## Where requests go -/

/-- The methods that the keys of a path item name, in order. -/
def methodsOf (item : List (String × Json)) : List HttpMethod :=
  (OrderedMap.keys item).filterMap HttpMethod.ofKey?

/-- Operations have the methods and the templates of the values that they were read from. -/
theorem targets_eq {d : Document} {operations : List Operation}
    (h : d.operations = .ok operations) :
    operations.map (fun op => (op.method, op.path))
      = (ofPaths d.paths).map fun raw => (raw.method, d.pathRoot ++ raw.template) := by
  rw [operations_eq, mapM_eq_ok_iff] at h
  generalize ofPaths d.paths = raws at h
  induction h with
  | nil => rfl
  | cons hread _ ih =>
    obtain ⟨read, _, rfl⟩ := read_eq_ok_iff.mp hread
    rw [List.map_cons, List.map_cons, ih]

/-- The methods and the templates that a document lists, path item by path item. -/
theorem listed_eq (paths : List (String × List (String × Json))) :
    (ofPaths paths).map (fun raw => (raw.method, raw.template))
      = paths.flatMap fun path => (methodsOf path.2).map fun method => (method, path.1) := by
  have hitem : ∀ path : String × List (String × Json),
      (ofItem path.1 path.2).map (fun raw => (raw.method, raw.template))
        = (methodsOf path.2).map fun method => (method, path.1) := by
    intro path
    unfold ofItem methodsOf OrderedMap.keys
    rw [List.map_filterMap, List.filterMap_map, List.map_filterMap]
    apply List.filterMap_congr
    intro member _
    simp only [Function.comp_apply]
    cases HttpMethod.ofKey? member.1 <;> rfl
  unfold ofPaths
  rw [List.map_flatMap]
  simp only [hitem]

/-- Path items with distinct templates list distinct pairs if each of them does. -/
theorem listed_nodup_iff {paths : List (String × List (String × Json))}
    (distinct : OrderedMap.DistinctKeys paths) :
    ((ofPaths paths).map fun raw => (raw.method, raw.template)).Nodup
      ↔ ∀ path ∈ paths, (methodsOf path.2).Nodup := by
  have hinjective : ∀ template : String,
      Function.Injective fun method : HttpMethod => (method, template) := by
    intro template m n h
    exact (Prod.mk.inj h).1
  -- Different path items have different templates, so they list no pair twice.
  have hapart : paths.Pairwise (Function.onFun List.Disjoint fun path =>
      (methodsOf path.2).map fun method => (method, path.1)) := by
    have hkeys : paths.Pairwise fun p q => p.1 ≠ q.1 := List.pairwise_map.mp distinct
    apply hkeys.imp
    intro p q hne target hp hq
    obtain ⟨m, _, rfl⟩ := List.mem_map.mp hp
    obtain ⟨n, _, heq⟩ := List.mem_map.mp hq
    exact hne (Prod.mk.inj heq).2.symm
  rw [listed_eq, List.nodup_flatMap]
  constructor
  · intro h path hpath
    exact List.Nodup.of_map _ (h.1 path hpath)
  · intro h
    exact ⟨fun path hpath => (h path hpath).map (hinjective path.1), hapart⟩

/-- Distinct keys in small letters name distinct methods. -/
theorem methodsOf_nodup {item : List (String × Json)} (distinct : OrderedMap.DistinctKeys item)
    (small : ∀ k ∈ OrderedMap.keys item, ∀ m, HttpMethod.ofKey? k = some m → k = m.key) :
    (methodsOf item).Nodup := by
  unfold methodsOf List.Nodup
  rw [List.pairwise_filterMap]
  apply List.Pairwise.imp_of_mem _ distinct
  intro k l hk hl hne m hm n hn heq
  have hkey : k = m.key := small k hk m hm
  have hkey' : l = n.key := small l hl n hn
  exact hne (by rw [hkey, hkey', heq])

/-- **One operation for each method and path**: the operations of a document differ in their methods
    or in their paths exactly if no path item has two keys that name one method. Two keys do that if
    they differ in the case of their letters only, so keys in small letters never do. -/
theorem targets_nodup_iff {d : Document} {operations : List Operation}
    (distinct : OrderedMap.DistinctKeys d.paths) (h : d.operations = .ok operations) :
    ((operations.map fun op => (op.method, op.path)).Nodup
        ↔ ∀ path ∈ d.paths, (methodsOf path.2).Nodup)
      ∧ ∀ path ∈ d.paths, OrderedMap.DistinctKeys path.2 →
          (∀ k ∈ OrderedMap.keys path.2, ∀ m, HttpMethod.ofKey? k = some m → k = m.key) →
          (methodsOf path.2).Nodup := by
  refine ⟨?exactly, fun path _ => methodsOf_nodup⟩
  case exactly =>
    -- The base path is in front of every template, so templates are apart if paths are.
    have hinjective : Function.Injective
        fun target : HttpMethod × String => (target.1, d.pathRoot ++ target.2) := by
      intro s t heq
      obtain ⟨hmethod, hpath⟩ := Prod.mk.inj heq
      have hpath' : d.pathRoot.toList ++ s.2.toList = d.pathRoot.toList ++ t.2.toList := by
        rw [← String.toList_append, ← String.toList_append, hpath]
      exact Prod.ext hmethod (String.toList_inj.mp (List.append_cancel_left hpath'))
    have hmap : (ofPaths d.paths).map (fun raw => (raw.method, d.pathRoot ++ raw.template))
        = ((ofPaths d.paths).map fun raw => (raw.method, raw.template)).map
            fun target => (target.1, d.pathRoot ++ target.2) := by
      rw [List.map_map]
      rfl
    rw [targets_eq h, hmap, List.nodup_map_iff hinjective, listed_nodup_iff distinct]

/-- A document whose path items name methods in small letters, in capitals and in a mixture. -/
def mixedKeys : Document where
  basePath := "/v1/"
  paths :=
    [("/pets",
      [("parameters", .array []), ("get", .object [("operationId", .string "listPets")]),
       ("POST", .object [("operationId", .string "createPet")])]),
     ("/pets/all",
      [("x-get", .null), ("Get", .object [("operationId", .string "showPets")])])]

theorem targets_mixedKeys :
    OrderedMap.DistinctKeys mixedKeys.paths
      ∧ ∃ operations, mixedKeys.operations = .ok operations
        ∧ (operations.map fun op => (op.method, op.path)).Nodup := by
  have distinct : OrderedMap.DistinctKeys mixedKeys.paths := by
    unfold OrderedMap.DistinctKeys
    decide
  exact ⟨distinct, _, rfl, (targets_nodup_iff distinct rfl).1.mpr (by decide)⟩

/-- A document in which two keys of one path item name one method. -/
def keysInTwoCases : Document where
  paths :=
    [("/pets",
      [("get", .object [("operationId", .string "listPets")]),
       ("GET", .object [("operationId", .string "findPets")])])]

/-- The two operations have one method and one path. -/
theorem targets_keysInTwoCases :
    OrderedMap.DistinctKeys keysInTwoCases.paths
      ∧ (∀ path ∈ keysInTwoCases.paths, OrderedMap.DistinctKeys path.2)
      ∧ ∃ operations, keysInTwoCases.operations = .ok operations
        ∧ ¬ (operations.map fun op => (op.method, op.path)).Nodup := by
  unfold OrderedMap.DistinctKeys
  exact ⟨by decide, by decide, _, rfl, by decide⟩

end Document

end ClientGen
