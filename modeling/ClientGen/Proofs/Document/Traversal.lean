import Mathlib.Data.Prod.Lex
import ClientGen.Proofs.Document.Flattening
import ClientGen.Proofs.Logged.FirstFailure

/-! # The traversal of a document

  Which entries of a document are operations, in which order they are read, and what is the first
  thing to go wrong. It is said here by the places of the entries, without the walk that reads them.

  * **`Listing`** lists the entries whose keys name methods: all of them, each once, path item by
    path item and in each of them entry by entry.
  * **`Flattened`** says what becomes of listed entries: an operation for each of them, or the
    failure of the first that cannot be read.
  * **Other entries** are listed nowhere, so they make no difference.

  The operations of every document are what these rules say (`operations_traversal`). -/

namespace ClientGen

/-- A key names a method if it is the name of the method in some mixture of ASCII case. -/
def HttpMethod.IsNamedBy (method : HttpMethod) (key : String) : Prop :=
  key.toList.map Char.toLower = method.key.toList

/-- The work on a list fails as the work on the first entry does that cannot be done. -/
theorem mapM_eq_error_iff {ε α β : Type} {f : α → Except ε β} {as : List α} {e : ε} :
    as.mapM f = .error e ↔ Logged.FailsFirst (fun a => Logged.ofExcept (f a)) as e := by
  have hwork : as.mapM f = (Logged.forEach (fun a => Logged.ofExcept (f a)) as).result := by
    induction as with
    | nil => rfl
    | cons a rest ih =>
      rw [List.mapM_cons, ih, Logged.result_forEach_cons, Logged.result_ofExcept]
      rfl
  rw [hwork, Logged.forEach_eq_error_iff]

/-! ## One entry -/

namespace RawOperation

def IsReadable (raw : RawOperation) : Prop := ∃ read, Operation.decode raw.value = .ok read

/-- What an entry becomes below `root`: the operation that its value is read as, with the method and
    the path of its place. -/
def Becomes (root : String) (raw : RawOperation) (op : Operation) : Prop :=
  ∃ read, Operation.decode raw.value = .ok read
    ∧ { read with method := raw.method, path := root ++ raw.template } = op

theorem exists_read_iff {root : String} {raw : RawOperation} :
    (∃ op, raw.read root = .ok op) ↔ raw.IsReadable := by
  simp only [read_eq_ok_iff]
  constructor
  · rintro ⟨_, read, hread, _⟩
    exact ⟨read, hread⟩
  · rintro ⟨read, hread⟩
    exact ⟨_, read, hread, rfl⟩

theorem read_eq_error_iff {root : String} {raw : RawOperation} {e : InvalidOperation} :
    raw.read root = .error e
      ↔ ∃ cause, Operation.decode raw.value = .error cause
        ∧ e = ⟨raw.method, raw.template, cause⟩ := by
  unfold read
  cases Operation.decode raw.value <;> simp [eq_comm]

end RawOperation

namespace Document

/-! ## Places -/

/-- What stands at a place of a document: in the path item with the first number, under the template
    of the item, the entry with the second number, whose key names the method. -/
def StandsAt (paths : List (String × List (String × Json))) (place : Nat × Nat)
    (raw : RawOperation) : Prop :=
  ∃ item key, paths[place.1]? = some (raw.template, item) ∧ item[place.2]? = some (key, raw.value)
    ∧ raw.method.IsNamedBy key

/-- A list of the entries of a document whose keys name methods, with their places. -/
structure Listing (paths : List (String × List (String × Json)))
    (listed : List ((Nat × Nat) × RawOperation)) : Prop where
  /-- The entries are listed by path item first and by their order in it next, each of them once. -/
  ordered : listed.Pairwise fun a b => Prod.Lex (· < ·) (· < ·) a.1 b.1
  /-- All such entries are listed, and no others are. -/
  complete : ∀ place raw, (place, raw) ∈ listed ↔ StandsAt paths place raw

/-- The entries of one path item whose keys name methods, with their places. -/
def locatedItem (i : Nat) (template : String) (item : List (String × Json)) :
    List ((Nat × Nat) × RawOperation) :=
  item.zipIdx.filterMap fun entry =>
    (HttpMethod.ofKey? entry.1.1).map fun method => ((i, entry.2), ⟨method, template, entry.1.2⟩)

def located (paths : List (String × List (String × Json))) : List ((Nat × Nat) × RawOperation) :=
  paths.zipIdx.flatMap fun path => locatedItem path.2 path.1.1 path.1.2

theorem mem_locatedItem {i : Nat} {template : String} {item : List (String × Json)}
    {place : Nat × Nat} {raw : RawOperation} :
    (place, raw) ∈ locatedItem i template item
      ↔ place.1 = i ∧ raw.template = template
        ∧ ∃ key, item[place.2]? = some (key, raw.value) ∧ raw.method.IsNamedBy key := by
  unfold locatedItem
  rw [List.mem_filterMap]
  constructor
  · rintro ⟨⟨⟨key, v⟩, j⟩, hentry, hlocated⟩
    obtain ⟨method, hmethod, heq⟩ := Option.map_eq_some_iff.mp hlocated
    obtain ⟨rfl, rfl⟩ := Prod.mk.inj heq
    exact ⟨rfl, rfl, key, List.mem_zipIdx_iff_getElem?.mp hentry,
      HttpMethod.ofKey?_eq_some_iff.mp hmethod⟩
  · rintro ⟨rfl, rfl, key, hentry, hnamed⟩
    refine ⟨((key, raw.value), place.2), List.mem_zipIdx_iff_getElem?.mpr hentry, ?_⟩
    rw [HttpMethod.ofKey?_eq_some_iff.mpr hnamed]
    rfl

theorem mem_located {paths : List (String × List (String × Json))} {place : Nat × Nat}
    {raw : RawOperation} : (place, raw) ∈ located paths ↔ StandsAt paths place raw := by
  unfold located
  rw [List.mem_flatMap]
  constructor
  · rintro ⟨⟨⟨template, item⟩, i⟩, hpath, hentry⟩
    obtain ⟨rfl, rfl, key, hkey, hnamed⟩ := mem_locatedItem.mp hentry
    exact ⟨item, key, List.mem_zipIdx_iff_getElem?.mp hpath, hkey, hnamed⟩
  · rintro ⟨item, key, hpath, hkey, hnamed⟩
    exact ⟨((raw.template, item), place.1), List.mem_zipIdx_iff_getElem?.mpr hpath,
      mem_locatedItem.mpr ⟨rfl, rfl, key, hkey, hnamed⟩⟩

/-- Numbers grow along a numbered list. -/
theorem pairwise_zipIdx {α : Type} (as : List α) : as.zipIdx.Pairwise fun a b => a.2 < b.2 := by
  have hnumbers : (as.zipIdx.map Prod.snd).Pairwise (· < ·) := by
    rw [List.zipIdx_map_snd]
    exact List.pairwise_lt_range'
  exact List.pairwise_map.mp hnumbers

theorem pairwise_locatedItem (i : Nat) (template : String) (item : List (String × Json)) :
    (locatedItem i template item).Pairwise fun a b => Prod.Lex (· < ·) (· < ·) a.1 b.1 := by
  unfold locatedItem
  rw [List.pairwise_filterMap]
  apply (pairwise_zipIdx item).imp
  intro entry later hlt a ha b hb
  obtain ⟨_, _, rfl⟩ := Option.map_eq_some_iff.mp ha
  obtain ⟨_, _, rfl⟩ := Option.map_eq_some_iff.mp hb
  exact Prod.Lex.right i hlt

theorem listing_located (paths : List (String × List (String × Json))) :
    Listing paths (located paths) where
  ordered := by
    unfold located
    rw [List.pairwise_flatMap]
    refine ⟨fun path _ => pairwise_locatedItem path.2 path.1.1 path.1.2, ?_⟩
    apply (pairwise_zipIdx paths).imp
    -- Entries of different items are ordered as the items are.
    rintro path later hlt ⟨place, raw⟩ ha ⟨place', raw'⟩ hb
    have hitem : place.1 = path.2 := (mem_locatedItem.mp ha).1
    have hitem' : place'.1 = later.2 := (mem_locatedItem.mp hb).1
    exact Prod.lex_def.mpr (.inl (by rwa [hitem, hitem']))
  complete := fun _ _ => mem_located

/-- The key in front is that of no method. -/
example :
    (located [("/pets", [("parameters", .null), ("GET", .null)]), ("/tags", [("put", .null)])]).map
      Prod.fst = [(0, 1), (1, 0)] := by
  decide +kernel

/-- Without their places, the located entries are those that are read. -/
theorem map_snd_located (paths : List (String × List (String × Json))) :
    (located paths).map Prod.snd = RawOperation.ofPaths paths := by
  have hitem : ∀ i template item,
      (locatedItem i template item).map Prod.snd = RawOperation.ofItem template item := by
    intro i template item
    -- Numbers are put in on the right too, so that both sides run over the same entries.
    conv_rhs => rw [← List.zipIdx_map_fst 0 item]
    unfold locatedItem RawOperation.ofItem
    rw [List.map_filterMap, List.filterMap_map]
    apply List.filterMap_congr
    intro entry _
    rw [Function.comp_apply, Option.map_map]
    rfl
  unfold located
  rw [List.map_flatMap]
  simp only [hitem]
  conv_rhs => rw [← List.zipIdx_map_fst 0 paths]
  rw [RawOperation.ofPaths, List.flatMap_map]

/-! ## The base path -/

/-- A root is a base path without one slash at the end. -/
def IsRootOf (base root : String) : Prop :=
  base = root ++ "/" ∨ base = root ∧ ∀ s, base ≠ s ++ "/"

theorem isRootOf_pathRoot (d : Document) : IsRootOf d.basePath d.pathRoot := by
  have hslash : "/".toList = ['/'] := rfl
  unfold IsRootOf pathRoot dropLastSlash
  by_cases h : d.basePath.toList.getLast? = some '/'
  · obtain ⟨root, hroot⟩ := List.getLast?_eq_some_iff.mp h
    rw [if_pos h, hroot, List.dropLast_concat]
    left
    rw [← String.toList_inj, String.toList_append, String.toList_ofList, hslash, hroot]
  · rw [if_neg h, String.ofList_toList]
    refine .inr ⟨rfl, ?_⟩
    intro s hs
    apply h
    rw [hs, String.toList_append, hslash]
    exact List.getLast?_concat

/-! ## What becomes of the entries -/

/-- What becomes of entries, of which `root` comes before every path. -/
inductive Flattened (root : String) (raws : List RawOperation) :
    Except InvalidOperation (List Operation) → Prop where
  | operations {operations : List Operation} :
      List.Forall₂ (RawOperation.Becomes root) raws operations →
      Flattened root raws (.ok operations)
  /-- A value cannot be read, and it is the first one. -/
  | invalid {before after : List RawOperation} {raw : RawOperation} {cause : Cause} :
      raws = before ++ raw :: after →
      (∀ b ∈ before, b.IsReadable) →
      Operation.decode raw.value = .error cause →
      Flattened root raws (.error ⟨raw.method, raw.template, cause⟩)

/-- The operations of a document are what the rules say. -/
theorem operations_eq_iff {d : Document} {r : Except InvalidOperation (List Operation)} :
    d.operations = r ↔ Flattened d.pathRoot (RawOperation.ofPaths d.paths) r := by
  rw [operations_eq]
  cases r with
  | ok operations =>
    have hread : (fun (raw : RawOperation) op => raw.read d.pathRoot = .ok op)
        = RawOperation.Becomes d.pathRoot := by
      funext raw op
      exact propext RawOperation.read_eq_ok_iff
    rw [mapM_eq_ok_iff, hread]
    constructor
    · exact .operations
    · intro h
      cases h with
      | operations h => exact h
  | error e =>
    rw [mapM_eq_error_iff]
    constructor
    · rintro ⟨before, raw, after, hsplit, hbefore, hraw⟩
      -- The failing entry is the first one, so those before it can be read.
      obtain ⟨cause, hcause, rfl⟩ := RawOperation.read_eq_error_iff.mp hraw
      exact .invalid hsplit (fun b hb => RawOperation.exists_read_iff.mp (hbefore b hb)) hcause
    · intro h
      cases h with
      | invalid hsplit hbefore hcause =>
        exact ⟨_, _, _, hsplit, fun b hb => RawOperation.exists_read_iff.mpr (hbefore b hb),
          RawOperation.read_eq_error_iff.mpr ⟨_, hcause, rfl⟩⟩

/-- The operations of a document are read if each of its entries can be. -/
theorem exists_operations_iff {d : Document} :
    (∃ operations, d.operations = .ok operations)
      ↔ ∀ raw ∈ RawOperation.ofPaths d.paths, raw.IsReadable := by
  constructor
  · rintro ⟨operations, h⟩ raw hraw
    rw [operations_eq, mapM_eq_ok_iff] at h
    obtain ⟨op, _, hop⟩ := exists_of_forall₂ h hraw
    exact RawOperation.exists_read_iff.mp ⟨op, hop⟩
  · intro h
    cases hresult : d.operations with
    | ok operations => exact ⟨operations, rfl⟩
    | error e =>
      -- The entry at which the walk stopped would be one that cannot be read.
      cases operations_eq_iff.mp hresult with
      | @invalid before after raw cause hsplit _ hcause =>
        obtain ⟨read, hread⟩ := h raw (by simp [hsplit])
        rw [hread] at hcause
        cases hcause

/-- An entry whose key names no method may be left out. -/
theorem operations_skip {d : Document} {front back : List (String × List (String × Json))}
    {template key : String} {before after : List (String × Json)} {v : Json}
    (hkey : ∀ method, ¬ HttpMethod.IsNamedBy method key)
    (hpaths : d.paths = front ++ (template, before ++ (key, v) :: after) :: back) :
    { d with paths := front ++ (template, before ++ after) :: back }.operations
      = d.operations := by
  have hnone : HttpMethod.ofKey? key = none := by
    rw [Option.eq_none_iff_forall_ne_some]
    intro method hmethod
    exact hkey method (HttpMethod.ofKey?_eq_some_iff.mp hmethod)
  rw [operations_eq, operations_eq, hpaths]
  simp only [RawOperation.ofPaths_append, RawOperation.ofPaths_cons, RawOperation.ofItem_append,
    RawOperation.ofItem_skip hnone]
  rfl

/-- **The traversal of a document**: the entries whose keys name methods are taken by path and then
    by key. If all of them can be read, each becomes an operation with the method of its key and
    with its template behind the root of the document; otherwise the first that cannot be read is
    the failure. Other entries make no difference. -/
theorem operations_traversal (d : Document) :
    IsRootOf d.basePath d.pathRoot
      ∧ (∃ listed, Listing d.paths listed
        ∧ ((∃ operations, d.operations = .ok operations)
          ↔ ∀ entry ∈ listed, entry.2.IsReadable)
        ∧ ∀ r, d.operations = r ↔ Flattened d.pathRoot (listed.map Prod.snd) r)
      ∧ ∀ front back template before after key v,
        (∀ method, ¬ HttpMethod.IsNamedBy method key) →
        d.paths = front ++ (template, before ++ (key, v) :: after) :: back →
        { d with paths := front ++ (template, before ++ after) :: back }.operations
          = d.operations := by
  refine ⟨isRootOf_pathRoot d, ⟨located d.paths, listing_located d.paths, ?_, ?_⟩, ?_⟩
  · rw [exists_operations_iff, ← map_snd_located, List.forall_mem_map]
  · intro r
    rw [map_snd_located]
    exact operations_eq_iff
  · intro front back template before after key v hkey hpaths
    exact operations_skip hkey hpaths

end Document

end ClientGen
