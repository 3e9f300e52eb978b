import Mathlib.Data.List.Induction
import Mathlib.Data.List.Nodup
import ClientGen.Names

/-! # First occurrences

  What `firstSeen` keeps of a list: every name once, where it occurs first.

  Each fact is proved with the seen names generalised, because the recursion puts one more name into
  them at every step; the facts about `firstSeen` itself are the cases without seen names.

  * **What was seen is taken out**: names that were seen before have no other effect than that they
    are missing (`firstSeenAfter_eq_filter`).
  * **Lists are reduced piece by piece**: behind another list, a list contributes what it keeps on
    its own and what does not occur in the other (`firstSeen_append`).
  * **There is no choice**: what is kept is the only list of the first occurrences
    (`firstOccurrences_iff`). -/

namespace ClientGen.Names

variable {α : Type} [DecidableEq α]

/-! ## One name -/

theorem firstSeenAfter_cons_of_mem {seen : List α} {m : α} (rest : List α) (h : m ∈ seen) :
    firstSeenAfter seen (m :: rest) = firstSeenAfter seen rest := if_pos h

theorem firstSeenAfter_cons_of_not_mem {seen : List α} {m : α} (rest : List α) (h : m ∉ seen) :
    firstSeenAfter seen (m :: rest) = m :: firstSeenAfter (m :: seen) rest := if_neg h

/-! ## Which names are kept, and in which order -/

theorem mem_firstSeenAfter {seen names : List α} {n : α} :
    n ∈ firstSeenAfter seen names ↔ n ∈ names ∧ n ∉ seen := by
  induction names generalizing seen with
  | nil => simp [firstSeenAfter]
  | cons m rest ih =>
    by_cases hm : m ∈ seen
    · rw [firstSeenAfter_cons_of_mem rest hm, ih, List.mem_cons]
      constructor
      · rintro ⟨hn, hns⟩
        exact ⟨Or.inr hn, hns⟩
      · rintro ⟨rfl | hn, hns⟩
        · exact absurd hm hns
        · exact ⟨hn, hns⟩
    · rw [firstSeenAfter_cons_of_not_mem rest hm, List.mem_cons, List.mem_cons, ih, List.mem_cons,
        not_or]
      -- A kept name is a member on both sides; another one is looked for in the rest.
      by_cases hnm : n = m
      · simp [hnm, hm]
      · simp [hnm]

theorem nodup_firstSeenAfter (seen names : List α) : (firstSeenAfter seen names).Nodup := by
  induction names generalizing seen with
  | nil => simp [firstSeenAfter]
  | cons m rest ih =>
    by_cases hm : m ∈ seen
    · rw [firstSeenAfter_cons_of_mem rest hm]
      exact ih seen
    · rw [firstSeenAfter_cons_of_not_mem rest hm]
      refine List.nodup_cons.mpr ⟨?_, ih (m :: seen)⟩
      -- The name counts as seen from here on.
      intro hmem
      exact (mem_firstSeenAfter.mp hmem).2 (List.mem_cons_self ..)

theorem firstSeenAfter_sublist (seen names : List α) :
    (firstSeenAfter seen names).Sublist names := by
  induction names generalizing seen with
  | nil => exact .slnil
  | cons m rest ih =>
    by_cases hm : m ∈ seen
    · rw [firstSeenAfter_cons_of_mem rest hm]
      exact .cons m (ih seen)
    · rw [firstSeenAfter_cons_of_not_mem rest hm]
      exact .cons_cons m (ih (m :: seen))

/-- Names are kept in the order in which they occur first. -/
theorem pairwise_idxOf_firstSeenAfter (seen names : List α) :
    (firstSeenAfter seen names).Pairwise fun m n => names.idxOf m < names.idxOf n := by
  induction names generalizing seen with
  | nil => exact .nil
  | cons m rest ih =>
    -- Behind `m`, the names other than `m` keep their order.
    have hlater : ∀ before : List α, m ∈ before →
        (firstSeenAfter before rest).Pairwise fun k n =>
          (m :: rest).idxOf k < (m :: rest).idxOf n := by
      intro before hm
      apply List.Pairwise.imp_of_mem _ (ih before)
      intro k n hk hn hlt
      have hne : ∀ {x : α}, x ∈ firstSeenAfter before rest → m ≠ x := by
        rintro x hx rfl
        exact (mem_firstSeenAfter.mp hx).2 hm
      rw [List.idxOf_cons_ne rest (hne hk), List.idxOf_cons_ne rest (hne hn)]
      exact Nat.succ_lt_succ hlt
    by_cases hm : m ∈ seen
    · rw [firstSeenAfter_cons_of_mem rest hm]
      exact hlater seen hm
    · rw [firstSeenAfter_cons_of_not_mem rest hm]
      refine List.pairwise_cons.mpr ⟨?_, hlater (m :: seen) (List.mem_cons_self ..)⟩
      intro n hn
      have hne : m ≠ n := by
        rintro rfl
        exact (mem_firstSeenAfter.mp hn).2 (List.mem_cons_self ..)
      rw [List.idxOf_cons_self, List.idxOf_cons_ne rest hne]
      exact Nat.succ_pos _

@[simp] theorem mem_firstSeen {names : List α} {n : α} : n ∈ firstSeen names ↔ n ∈ names := by
  simp [firstSeen, mem_firstSeenAfter]

theorem nodup_firstSeen (names : List α) : (firstSeen names).Nodup :=
  nodup_firstSeenAfter [] names

theorem pairwise_idxOf_firstSeen (names : List α) :
    (firstSeen names).Pairwise fun m n => names.idxOf m < names.idxOf n :=
  pairwise_idxOf_firstSeenAfter [] names

/-- The order of first occurrence leaves one way to list the same names. -/
theorem eq_of_perm_of_pairwise_idxOf {names kept kept' : List α}
    (h : kept.Pairwise fun m n => names.idxOf m < names.idxOf n)
    (h' : kept'.Pairwise fun m n => names.idxOf m < names.idxOf n) (hperm : kept.Perm kept') :
    kept = kept' := by
  refine List.Perm.eq_of_pairwise ?_ h h' hperm
  intro m n _ _ hlt hlt'
  exact absurd hlt' (Nat.lt_asymm hlt)

/-! ## What was seen before -/

/-- It does not matter in which order and how often names were seen. -/
theorem firstSeenAfter_congr {seen seen' : List α} (h : ∀ n, n ∈ seen ↔ n ∈ seen')
    (names : List α) : firstSeenAfter seen names = firstSeenAfter seen' names := by
  induction names generalizing seen seen' with
  | nil => rfl
  | cons m rest ih =>
    by_cases hm : m ∈ seen
    · rw [firstSeenAfter_cons_of_mem rest hm, firstSeenAfter_cons_of_mem rest ((h m).mp hm)]
      exact ih h
    · have hm' : m ∉ seen' := fun hmem => hm ((h m).mpr hmem)
      have hnext : ∀ n, n ∈ m :: seen ↔ n ∈ m :: seen' := by
        intro n
        rw [List.mem_cons, List.mem_cons, h n]
      rw [firstSeenAfter_cons_of_not_mem rest hm, firstSeenAfter_cons_of_not_mem rest hm', ih hnext]

/-- Names that were seen in addition are taken out of what is kept. -/
theorem firstSeenAfter_append_seen (before seen names : List α) :
    firstSeenAfter (before ++ seen) names
      = (firstSeenAfter seen names).filter fun n => n ∉ before := by
  induction names generalizing seen with
  | nil => rfl
  | cons m rest ih =>
    by_cases hm : m ∈ seen
    · have hmem : m ∈ before ++ seen := List.mem_append_right before hm
      rw [firstSeenAfter_cons_of_mem rest hmem, firstSeenAfter_cons_of_mem rest hm]
      exact ih seen
    · rw [firstSeenAfter_cons_of_not_mem rest hm]
      by_cases hb : m ∈ before
      · -- The name counts as seen on the right from here on, and it did so on the left before.
        have hsame : ∀ n, n ∈ before ++ seen ↔ n ∈ before ++ m :: seen := by
          intro n
          rw [List.mem_append, List.mem_append, List.mem_cons]
          constructor
          · exact Or.imp_right Or.inr
          · rintro (hn | rfl | hn)
            · exact Or.inl hn
            · exact Or.inl hb
            · exact Or.inr hn
        rw [firstSeenAfter_cons_of_mem rest (List.mem_append_left seen hb),
          List.filter_cons_of_neg (by simpa using hb), ← ih, firstSeenAfter_congr hsame]
      · have hmem : m ∉ before ++ seen := by
          rw [List.mem_append, not_or]
          exact ⟨hb, hm⟩
        have hsame : ∀ n, n ∈ m :: (before ++ seen) ↔ n ∈ before ++ m :: seen :=
          fun _ => List.perm_middle.symm.mem_iff
        rw [firstSeenAfter_cons_of_not_mem rest hmem, List.filter_cons_of_pos (by simpa using hb),
          ← ih, firstSeenAfter_congr hsame]

/-- What was seen before is taken out of what is kept otherwise. -/
theorem firstSeenAfter_eq_filter (seen names : List α) :
    firstSeenAfter seen names = (firstSeen names).filter fun n => n ∉ seen := by
  have h := firstSeenAfter_append_seen seen [] names
  rwa [List.append_nil] at h

/-! ## Pieces -/

/-- A list is reduced to its end, and what follows is reduced with its names seen. -/
theorem firstSeenAfter_append (seen a b : List α) :
    firstSeenAfter seen (a ++ b) = firstSeenAfter seen a ++ firstSeenAfter (a ++ seen) b := by
  induction a generalizing seen with
  | nil => rfl
  | cons m rest ih =>
    rw [List.cons_append]
    by_cases hm : m ∈ seen
    · -- A name seen before adds nothing to what counts as seen.
      have hsame : ∀ n, n ∈ rest ++ seen ↔ n ∈ m :: rest ++ seen := by
        intro n
        rw [List.cons_append, List.mem_cons]
        refine ⟨Or.inr, ?_⟩
        rintro (rfl | hn)
        · exact List.mem_append_right rest hm
        · exact hn
      rw [firstSeenAfter_cons_of_mem _ hm, firstSeenAfter_cons_of_mem rest hm, ih,
        firstSeenAfter_congr hsame]
    · have hsame : ∀ n, n ∈ rest ++ m :: seen ↔ n ∈ m :: rest ++ seen :=
        fun _ => List.perm_middle.mem_iff
      rw [firstSeenAfter_cons_of_not_mem _ hm, firstSeenAfter_cons_of_not_mem rest hm, ih,
        firstSeenAfter_congr hsame]
      rfl

/-- Behind another list, a list keeps what it keeps on its own without the names of the other. -/
theorem firstSeen_append (a b : List α) :
    firstSeen (a ++ b) = firstSeen a ++ (firstSeen b).filter fun n => n ∉ a := by
  rw [firstSeen, firstSeenAfter_append, List.append_nil, firstSeenAfter_eq_filter a b]
  rfl

/-- A list without repetitions is kept as it is. -/
theorem firstSeen_eq_self {names : List α} (h : names.Nodup) : firstSeen names = names := by
  have hperm : (firstSeen names).Perm names :=
    (List.perm_ext_iff_of_nodup (nodup_firstSeen names) h).mpr fun _ => mem_firstSeen
  exact (firstSeenAfter_sublist [] names).eq_of_length hperm.length_eq

theorem firstSeen_firstSeen (names : List α) : firstSeen (firstSeen names) = firstSeen names :=
  firstSeen_eq_self (nodup_firstSeen names)

/-- Nothing changes if the pieces of a list are reduced before the whole. -/
theorem firstSeen_flatMap (pieces : List (List α)) :
    firstSeen (pieces.flatMap firstSeen) = firstSeen pieces.flatten := by
  induction pieces with
  | nil => rfl
  | cons piece rest ih =>
    rw [List.flatMap_cons, List.flatten_cons, firstSeen_append, firstSeen_append,
      firstSeen_firstSeen, ih]
    simp only [mem_firstSeen]

theorem firstSeen_concat (names : List α) (n : α) :
    firstSeen (names ++ [n]) = if n ∈ names then firstSeen names else firstSeen names ++ [n] := by
  have hsingle : firstSeen [n] = [n] := rfl
  rw [firstSeen_append, hsingle]
  by_cases h : n ∈ names
  · simp [h]
  · simp [h]

/-- `firstSeen` removes the same occurrences as the library's `eraseDups`. -/
theorem firstSeen_eq_eraseDups (names : List α) : firstSeen names = names.eraseDups := by
  -- The library's law for a list behind another one takes the last name off.
  induction names using List.reverseRecOn with
  | nil => rfl
  | append_singleton names n ih =>
    rw [firstSeen_concat, List.eraseDups_append, ih]
    by_cases h : n ∈ names
    · simp [List.removeAll, h]
    · simp [List.removeAll, h, List.eraseDups_cons]

/-! ## First occurrences as a list -/

/-- The first occurrences of the names in a list. -/
structure FirstOccurrences (names kept : List α) : Prop where
  nodup : kept.Nodup
  mem_iff : ∀ n, n ∈ kept ↔ n ∈ names
  /-- They are the list with occurrences taken out. -/
  sublist : kept.Sublist names
  /-- They are ordered by where they occur first. -/
  ordered : kept.Pairwise fun m n => names.idxOf m < names.idxOf n

theorem firstOccurrences_firstSeen (names : List α) : FirstOccurrences names (firstSeen names) where
  nodup := nodup_firstSeen names
  mem_iff _ := mem_firstSeen
  sublist := firstSeenAfter_sublist [] names
  ordered := pairwise_idxOf_firstSeen names

theorem firstOccurrences_iff {names kept : List α} :
    FirstOccurrences names kept ↔ kept = firstSeen names := by
  constructor
  · intro h
    have hperm : kept.Perm (firstSeen names) :=
      (List.perm_ext_iff_of_nodup h.nodup (nodup_firstSeen names)).mpr fun n =>
        (h.mem_iff n).trans mem_firstSeen.symm
    exact eq_of_perm_of_pairwise_idxOf h.ordered (pairwise_idxOf_firstSeen names) hperm
  · rintro rfl
    exact firstOccurrences_firstSeen names

/-- **Exactly the first occurrences are kept**: what is kept is the list of the first occurrences,
    and there is no other. Behind another list, a list keeps what it keeps on its own without the
    names of the other; so it makes no difference whether a list, or the pieces it is made of, were
    reduced before. -/
theorem firstSeen_exact :
    (∀ names kept : List α, FirstOccurrences names kept ↔ kept = firstSeen names)
      ∧ (∀ a b : List α, firstSeen (a ++ b) = firstSeen a ++ (firstSeen b).filter fun n => n ∉ a)
      ∧ (∀ names : List α, firstSeen (firstSeen names) = firstSeen names)
      ∧ ∀ pieces : List (List α), firstSeen (pieces.flatMap firstSeen) = firstSeen pieces.flatten :=
  ⟨fun _ _ => firstOccurrences_iff, firstSeen_append, firstSeen_firstSeen, firstSeen_flatMap⟩

/-- The second list adds the one name that is new. -/
example : firstSeen (["B", "A", "B"] ++ ["C", "A", "C"]) = ["B", "A", "C"] := by decide

end ClientGen.Names
