/-! # Maps in document order

  The objects of a document are read as lists of entries whose order is kept. A key that is written
  twice keeps its first position and takes its last value, so `put` and `ofEntries` never repeat a
  key. -/

namespace ClientGen.OrderedMap

variable {κ α : Type}

def keys (entries : List (κ × α)) : List κ := entries.map Prod.fst

/-- The first value stored under a key. -/
def find? [DecidableEq κ] (key : κ) : List (κ × α) → Option α
  | [] => none
  | (k, v) :: rest => if k = key then some v else find? key rest

/-- Stores a value: in place when the key is present, at the end otherwise. -/
def put [DecidableEq κ] (key : κ) (value : α) : List (κ × α) → List (κ × α)
  | [] => [(key, value)]
  | (k, v) :: rest => if k = key then (k, value) :: rest else (k, v) :: put key value rest

/-- The map that a list of entries stores, one after the other. -/
def ofEntries [DecidableEq κ] (entries : List (κ × α)) : List (κ × α) :=
  entries.foldl (fun stored entry => put entry.1 entry.2 stored) []

def DistinctKeys (entries : List (κ × α)) : Prop := (keys entries).Nodup

/-! ### Keys and values after storing -/

section

variable [DecidableEq κ]

theorem find?_eq_none_iff {key : κ} {entries : List (κ × α)} :
    find? key entries = none ↔ key ∉ keys entries := by
  induction entries with
  | nil => simp [find?, keys]
  | cons entry rest ih =>
    obtain ⟨k, v⟩ := entry
    by_cases h : k = key
    · simp [find?, keys, h]
    · have h' : ¬ key = k := fun e => h e.symm
      simpa [find?, keys, h, h'] using ih

theorem keys_put (key : κ) (value : α) (entries : List (κ × α)) :
    keys (put key value entries)
      = if key ∈ keys entries then keys entries else keys entries ++ [key] := by
  induction entries with
  | nil => simp [put, keys]
  | cons entry rest ih =>
    obtain ⟨k, v⟩ := entry
    by_cases h : k = key
    · simp [put, keys, h]
    · have h' : ¬ key = k := fun e => h e.symm
      simp only [put, h, if_false]
      simp only [keys, List.map_cons] at ih ⊢
      rw [ih]
      by_cases m : key ∈ rest.map Prod.fst <;> simp [m, h']

theorem DistinctKeys.put {entries : List (κ × α)} (h : DistinctKeys entries) (key : κ)
    (value : α) : DistinctKeys (put key value entries) := by
  unfold DistinctKeys at h ⊢
  rw [keys_put]
  split
  · exact h
  · next m =>
    refine List.nodup_append.2 ⟨h, by simp, ?_⟩
    intro a ha b hb e
    rw [List.mem_singleton] at hb
    exact m (hb ▸ e ▸ ha)

theorem distinctKeys_ofEntries (entries : List (κ × α)) : DistinctKeys (ofEntries entries) := by
  have general : ∀ (later stored : List (κ × α)), DistinctKeys stored →
      DistinctKeys (later.foldl (fun stored entry => OrderedMap.put entry.1 entry.2 stored)
        stored) := by
    intro later
    induction later with
    | nil => intro stored h; exact h
    | cons entry rest ih => intro stored h; exact ih _ (h.put entry.1 entry.2)
  exact general entries [] (by simp [DistinctKeys, keys])

theorem find?_put_self (key : κ) (value : α) (entries : List (κ × α)) :
    find? key (put key value entries) = some value := by
  induction entries with
  | nil => simp [put, find?]
  | cons entry rest ih =>
    obtain ⟨k, v⟩ := entry
    by_cases h : k = key <;> simp [put, find?, h, ih]

theorem find?_put_of_ne {key other : κ} (h : other ≠ key) (value : α)
    (entries : List (κ × α)) : find? other (put key value entries) = find? other entries := by
  induction entries with
  | nil => simp [put, find?, h.symm]
  | cons entry rest ih =>
    obtain ⟨k, v⟩ := entry
    by_cases e : k = key
    · subst e
      simp [put, find?, h.symm]
    · simp [put, find?, e, ih]

/-- An entry under another key may be left out. -/
theorem find?_append_of_ne {key other : κ} (h : other ≠ key) (front : List (κ × α)) (value : α)
    (back : List (κ × α)) :
    find? key (front ++ (other, value) :: back) = find? key (front ++ back) := by
  induction front with
  | nil => simp [find?, h]
  | cons entry rest ih =>
    obtain ⟨k, v⟩ := entry
    by_cases e : k = key
    · simp [find?, e]
    · simpa [find?, e] using ih

end

end ClientGen.OrderedMap
