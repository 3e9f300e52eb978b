import Mathlib.Data.List.Forall2
import Mathlib.Data.List.Induction
import Mathlib.Data.List.Nodup
import ClientGen.Proofs.Names.Echoes

/-! # Places of echoes

  Where the echoes of a list stand, and what they repeat. `EchoReport` says it without a scan: the
  places told of are those whose entry agrees with an earlier one, each of them once and in order,
  and an echo is told with the first entry of the whole list that it agrees with.

  A scan knows only the entries that it has passed. An entry more at the end of the list changes
  nothing in front of it (`EchoReport.concat_of_none`, `EchoReport.concat_of_some`), so the echoes
  found by the scan are such a report (`exists_echoReport`). -/

namespace ClientGen.Names

variable {α : Type} {agree : α → α → Bool}

/-! ## Reports -/

/-- The place of the first entry of a list that an entry agrees with. -/
structure IsFirstPlace (agree : α → α → Bool) (xs : List α) (x : α) (i : Nat) : Prop where
  agrees : ∃ e, xs[i]? = some e ∧ agree e x = true
  earliest : ∀ k < i, ∀ e, xs[k]? = some e → agree e x = false

/-- A place whose entry agrees with an earlier one. -/
def IsEcho (agree : α → α → Bool) (xs : List α) (j : Nat) : Prop :=
  ∃ x, xs[j]? = some x ∧ ∃ i < j, ∃ e, xs[i]? = some e ∧ agree e x = true

/-- A report of all echoes of a list: their places, and each of them behind the entry that it
    repeats. -/
structure EchoReport (agree : α → α → Bool) (xs : List α) (places : List Nat)
    (pairs : List (α × α)) : Prop where
  /-- The places are in order, and none is told twice. -/
  ordered : places.Pairwise (· < ·)
  /-- All echoes are told, and nothing else is. -/
  complete : ∀ j, j ∈ places ↔ IsEcho agree xs j
  /-- What is told of a place: the first entry that its entry agrees with, and its entry. -/
  told : List.Forall₂ (fun j pair => xs[j]? = some pair.2
    ∧ ∃ i, IsFirstPlace agree xs pair.2 i ∧ xs[i]? = some pair.1) places pairs

/-! ## One entry more -/

theorem echoesAfter_append (before xs ys : List α) :
    echoesAfter agree before (xs ++ ys)
      = echoesAfter agree before xs ++ echoesAfter agree (before ++ xs) ys := by
  induction xs generalizing before with
  | nil => simp [echoesAfter]
  | cons x rest ih =>
    rw [List.cons_append, echoesAfter, echoesAfter, ih, List.append_assoc, List.append_assoc]
    rfl

theorem echoes_concat (xs : List α) (x : α) :
    echoes agree (xs ++ [x])
      = echoes agree xs ++ ((xs.find? fun e => agree e x).map fun e => (e, x)).toList := by
  rw [echoes, echoesAfter_append, echoesAfter, echoesAfter, List.append_nil]
  rfl

theorem IsEcho.lt_length {xs : List α} {j : Nat} (h : IsEcho agree xs j) : j < xs.length := by
  obtain ⟨x, hx, _⟩ := h
  exact (List.getElem?_eq_some_iff.mp hx).1

theorem IsFirstPlace.lt_length {xs : List α} {x : α} {i : Nat} (h : IsFirstPlace agree xs x i) :
    i < xs.length := by
  obtain ⟨e, he, _⟩ := h.agrees
  exact (List.getElem?_eq_some_iff.mp he).1

/-- The first place stays when an entry is put behind the others. -/
theorem IsFirstPlace.append {xs : List α} {x : α} {i : Nat} (h : IsFirstPlace agree xs x i)
    (ys : List α) : IsFirstPlace agree (xs ++ ys) x i where
  agrees := by
    rw [List.getElem?_append_left h.lt_length]
    exact h.agrees
  earliest := by
    intro k hk e he
    rw [List.getElem?_append_left (Nat.lt_trans hk h.lt_length)] at he
    exact h.earliest k hk e he

theorem exists_isFirstPlace {xs : List α} {x e : α}
    (h : (xs.find? fun e => agree e x) = some e) :
    ∃ i, IsFirstPlace agree xs x i ∧ xs[i]? = some e := by
  obtain ⟨hagree, i, hi, hxs, hearlier⟩ := List.find?_eq_some_iff_getElem.mp h
  have he : xs[i]? = some e := by rw [List.getElem?_eq_getElem hi, hxs]
  refine ⟨i, ⟨⟨e, he, hagree⟩, ?_⟩, he⟩
  intro k hk d hd
  obtain ⟨hlt, rfl⟩ := List.getElem?_eq_some_iff.mp hd
  simpa using hearlier k hk

/-- An entry at the end is an echo exactly if the scan has passed one that it agrees with. -/
theorem isEcho_concat_iff {xs : List α} {x : α} {j : Nat} :
    IsEcho agree (xs ++ [x]) j
      ↔ IsEcho agree xs j ∨ j = xs.length ∧ ∃ e ∈ xs, agree e x = true := by
  constructor
  · rintro ⟨y, hy, i, hij, e, he, hagree⟩
    have hj : j < xs.length + 1 := by
      have hlt := (List.getElem?_eq_some_iff.mp hy).1
      simpa using hlt
    have hi : i < xs.length := by omega
    rw [List.getElem?_append_left hi] at he
    -- The entry is one of those in front, or it is the one at the end.
    rcases Nat.lt_succ_iff_lt_or_eq.mp hj with hj | rfl
    · rw [List.getElem?_append_left hj] at hy
      exact .inl ⟨y, hy, i, hij, e, he, hagree⟩
    · rw [List.getElem?_concat_length] at hy
      obtain rfl := Option.some.inj hy
      exact .inr ⟨rfl, e, List.mem_of_getElem? he, hagree⟩
  · rintro (h | ⟨rfl, e, he, hagree⟩)
    · have hj := h.lt_length
      obtain ⟨y, hy, i, hij, e, he, hagree⟩ := h
      refine ⟨y, ?_, i, hij, e, ?_, hagree⟩
      · rw [List.getElem?_append_left hj, hy]
      · rw [List.getElem?_append_left (Nat.lt_trans hij hj), he]
    · obtain ⟨i, hi, rfl⟩ := List.mem_iff_getElem.mp he
      refine ⟨x, List.getElem?_concat_length, i, hi, xs[i], ?_, hagree⟩
      rw [List.getElem?_append_left hi, List.getElem?_eq_getElem hi]

section

variable {xs : List α} {x : α} {places : List Nat} {pairs : List (α × α)}

/-- What was told stays true when an entry is put behind the others. -/
theorem EchoReport.told_append (h : EchoReport agree xs places pairs) (ys : List α) :
    List.Forall₂ (fun j pair => (xs ++ ys)[j]? = some pair.2
      ∧ ∃ i, IsFirstPlace agree (xs ++ ys) pair.2 i ∧ (xs ++ ys)[i]? = some pair.1)
      places pairs := by
  apply h.told.imp
  rintro j pair ⟨hj, i, hfirst, hi⟩
  refine ⟨?_, i, hfirst.append ys, ?_⟩
  · rw [List.getElem?_append_left (List.getElem?_eq_some_iff.mp hj).1, hj]
  · rw [List.getElem?_append_left hfirst.lt_length, hi]

theorem EchoReport.lt_length (h : EchoReport agree xs places pairs) :
    ∀ j ∈ places, j < xs.length :=
  fun j hj => ((h.complete j).mp hj).lt_length

/-- An entry that agrees with none of those in front adds nothing. -/
theorem EchoReport.concat_of_none (h : EchoReport agree xs places pairs)
    (hx : (xs.find? fun e => agree e x) = none) : EchoReport agree (xs ++ [x]) places pairs where
  ordered := h.ordered
  complete := by
    intro j
    have hnone : ¬ ∃ e ∈ xs, agree e x = true := by
      rintro ⟨e, he, hagree⟩
      exact List.find?_eq_none.mp hx e he hagree
    rw [h.complete, isEcho_concat_iff]
    exact ⟨.inl, fun hecho => hecho.resolve_right fun hlast => hnone hlast.2⟩
  told := h.told_append [x]

/-- An entry that agrees with one in front is told at the end. -/
theorem EchoReport.concat_of_some {e : α} (h : EchoReport agree xs places pairs)
    (hx : (xs.find? fun e => agree e x) = some e) :
    EchoReport agree (xs ++ [x]) (places ++ [xs.length]) (pairs ++ [(e, x)]) where
  ordered := by
    refine List.pairwise_append.mpr ⟨h.ordered, List.pairwise_singleton _ _, ?_⟩
    intro j hj k hk
    rw [List.mem_singleton.mp hk]
    exact h.lt_length j hj
  complete := by
    intro j
    have hagree : agree e x = true := by simpa using List.find?_some hx
    -- The new place is an echo, and nothing changes at the earlier ones.
    have hsome : ∃ e ∈ xs, agree e x = true := ⟨e, List.mem_of_find?_eq_some hx, hagree⟩
    rw [List.mem_append, List.mem_singleton, h.complete, isEcho_concat_iff, and_iff_left hsome]
  told := by
    obtain ⟨i, hfirst, hi⟩ := exists_isFirstPlace hx
    refine List.rel_append (h.told_append [x]) (.cons ⟨?_, i, hfirst.append [x], ?_⟩ .nil)
    · exact List.getElem?_concat_length
    · rw [List.getElem?_append_left hfirst.lt_length, hi]

end

/-! ## All entries -/

/-- **Echoes are reported in full**: the echoes that a scan finds are a report of all echoes. -/
theorem exists_echoReport (agree : α → α → Bool) (xs : List α) :
    ∃ places, EchoReport agree xs places (echoes agree xs) := by
  -- The scan goes from the left, so the last entry is taken off.
  induction xs using List.reverseRecOn with
  | nil =>
    refine ⟨[], .nil, fun j => ⟨?_, ?_⟩, .nil⟩
    · exact fun hj => absurd hj List.not_mem_nil
    · exact fun hecho => absurd hecho.lt_length (Nat.not_lt_zero j)
  | append_singleton xs x ih =>
    obtain ⟨places, h⟩ := ih
    rw [echoes_concat]
    cases hx : xs.find? fun e => agree e x with
    | none => exact ⟨places, by simpa using h.concat_of_none hx⟩
    | some e => exact ⟨places ++ [xs.length], h.concat_of_some hx⟩

/-- An entry is the first that it agrees with, or it is told once. -/
theorem EchoReport.first_or_told {xs : List α} {places : List Nat} {pairs : List (α × α)}
    (h : EchoReport agree xs places pairs) (hrefl : ∀ x, agree x x = true) {j : Nat} {x : α}
    (hx : xs[j]? = some x) :
    IsFirstPlace agree xs x j ∧ places.count j = 0
      ∨ ¬ IsFirstPlace agree xs x j ∧ places.count j = 1 := by
  have hnodup : places.Nodup := h.ordered.imp Nat.ne_of_lt
  by_cases hecho : IsEcho agree xs j
  · refine .inr ⟨?_, List.count_eq_one_of_mem hnodup ((h.complete j).mpr hecho)⟩
    obtain ⟨y, hy, i, hij, e, he, hagree⟩ := hecho
    obtain rfl : x = y := Option.some.inj (hx.symm.trans hy)
    intro hfirst
    -- An earlier entry agrees, so this one is not the first.
    have hearlier := hfirst.earliest i hij e he
    rw [hagree] at hearlier
    cases hearlier
  · refine .inl ⟨⟨⟨x, hx, hrefl x⟩, ?_⟩, ?_⟩
    · intro k hk e he
      rw [← Bool.not_eq_true]
      exact fun hagree => hecho ⟨x, hx, k, hk, e, he, hagree⟩
    · exact List.count_eq_zero.mpr fun hj => hecho ((h.complete j).mp hj)

end ClientGen.Names
