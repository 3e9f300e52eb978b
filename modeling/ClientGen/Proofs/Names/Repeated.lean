import ClientGen.Proofs.Names.FirstSeen

/-! # Repeated names

  What the tally of a list of names holds: every name once, where it occurs first, with the number
  of its occurrences (`tally_eq`). The names reported as repeated are therefore those that occur
  more than once, in this order (`repeated_eq`).

  `RepeatReport` says the same without a tally, and it leaves no choice: the repeated names are the
  only report of a list (`repeatReport_iff`). -/

namespace ClientGen.Names

variable {α : Type} [DecidableEq α]

/-! ## Counting one name -/

theorem countIn_map_of_mem {n : α} {names : List α} (hnodup : names.Nodup) (hmem : n ∈ names)
    (count : α → Nat) :
    countIn n (names.map fun m => (m, count m))
      = names.map fun m => (m, if m = n then count m + 1 else count m) := by
  induction names with
  | nil => cases hmem
  | cons m rest ih =>
    obtain ⟨hm, hrest⟩ := List.nodup_cons.mp hnodup
    rw [List.map_cons, List.map_cons, countIn]
    by_cases heq : m = n
    · -- The name does not occur again, so the other counts stay.
      subst heq
      rw [if_pos rfl, if_pos rfl]
      congr 1
      apply List.map_congr_left
      intro k hk
      have hne : k ≠ m := by
        rintro rfl
        exact hm hk
      rw [if_neg hne]
    · have hn : n ∈ rest := by
        rcases List.mem_cons.mp hmem with rfl | hn
        · exact absurd rfl heq
        · exact hn
      rw [if_neg heq, if_neg heq, ih hrest hn]

theorem countIn_map_of_not_mem {n : α} {names : List α} (h : n ∉ names) (count : α → Nat) :
    countIn n (names.map fun m => (m, count m))
      = names.map (fun m => (m, count m)) ++ [(n, 1)] := by
  induction names with
  | nil => rfl
  | cons m rest ih =>
    rw [List.mem_cons, not_or] at h
    have hne : m ≠ n := fun heq => h.1 heq.symm
    rw [List.map_cons, countIn, if_neg hne, ih h.2]
    rfl

/-! ## The tally -/

theorem tally_concat (names : List α) (n : α) :
    tally (names ++ [n]) = countIn n (tally names) := by
  simp [tally]

/-- The tally holds every name once, where it occurs first, with the number of its occurrences. -/
theorem tally_eq (names : List α) :
    tally names = (firstSeen names).map fun n => (n, names.count n) := by
  -- Names are counted from the left, so the last one is taken off.
  induction names using List.reverseRecOn with
  | nil => rfl
  | append_singleton names n ih =>
    rw [tally_concat, ih, firstSeen_concat]
    by_cases h : n ∈ names
    · rw [if_pos h, countIn_map_of_mem (nodup_firstSeen names) (mem_firstSeen.mpr h)]
      apply List.map_congr_left
      intro m _
      by_cases heq : m = n
      · subst heq
        simp
      · have hne : n ≠ m := fun e => heq e.symm
        simp [heq, hne]
    · rw [if_neg h, countIn_map_of_not_mem (by simpa using h), List.map_append]
      -- A new name is none of those counted before.
      have hcounts : ∀ m ∈ firstSeen names,
          (m, names.count m) = (m, (names ++ [n]).count m) := by
        intro m hm
        have hne : n ≠ m := by
          rintro rfl
          exact h (mem_firstSeen.mp hm)
        simp [hne]
      rw [List.map_congr_left hcounts]
      simp [List.count_eq_zero.mpr h]

/-- The repeated names are those that occur more than once, ordered by first occurrence. -/
theorem repeated_eq (names : List α) :
    repeated names = (firstSeen names).filter fun n => 1 < names.count n := by
  rw [repeated, tally_eq, List.filter_map, List.map_map]
  have hfst : (Prod.fst ∘ fun n => (n, names.count n)) = id := rfl
  rw [hfst, List.map_id]
  rfl

theorem repeated_eq_nil_iff {names : List α} : repeated names = [] ↔ names.Nodup := by
  rw [repeated_eq, List.filter_eq_nil_iff, List.nodup_iff_count_le_one]
  constructor
  · intro h n
    -- The tally is about the names of the list; any other name has no occurrence.
    by_cases hn : n ∈ names
    · have hcount := h n (mem_firstSeen.mpr hn)
      simpa using hcount
    · rw [List.count_eq_zero.mpr hn]
      exact Nat.zero_le 1
  · intro h n _
    have hcount := h n
    simpa using hcount

/-! ## Reports -/

/-- A report of the names that occur more than once. -/
structure RepeatReport (names report : List α) : Prop where
  /-- Each of them is listed once, and no other name is listed. -/
  count_eq : ∀ n, report.count n = if 2 ≤ names.count n then 1 else 0
  /-- They are listed in the order in which they occur first. -/
  ordered : report.Pairwise fun m n => names.idxOf m < names.idxOf n

theorem repeatReport_repeated (names : List α) : RepeatReport names (repeated names) where
  count_eq := by
    intro n
    have hnodup : (repeated names).Nodup := by
      rw [repeated_eq]
      exact (nodup_firstSeen names).filter _
    -- No name is reported twice, so counting it comes to asking whether it is there.
    have hmem : n ∈ repeated names ↔ 2 ≤ names.count n := by
      rw [repeated_eq, List.mem_filter, mem_firstSeen, decide_eq_true_eq]
      constructor
      · exact fun h => h.2
      · intro h
        exact ⟨List.count_pos_iff.mp (Nat.lt_of_lt_of_le Nat.zero_lt_two h), h⟩
    rw [hnodup.count]
    exact if_congr hmem rfl rfl
  ordered := by
    rw [repeated_eq]
    exact (pairwise_idxOf_firstSeen names).filter _

/-- The names that are listed and their order are fixed, so there is one report. -/
theorem RepeatReport.eq {names report report' : List α} (h : RepeatReport names report)
    (h' : RepeatReport names report') : report = report' := by
  have hperm : report.Perm report' :=
    List.perm_iff_count.mpr fun n => (h.count_eq n).trans (h'.count_eq n).symm
  exact eq_of_perm_of_pairwise_idxOf h.ordered h'.ordered hperm

theorem repeatReport_iff {names report : List α} :
    RepeatReport names report ↔ report = repeated names := by
  constructor
  · exact fun h => h.eq (repeatReport_repeated names)
  · rintro rfl
    exact repeatReport_repeated names

end ClientGen.Names
