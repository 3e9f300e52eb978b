import Mathlib.Data.List.Nodup
import Mathlib.Data.List.Perm.Subperm
import ClientGen.Operation.Compile

/-! # The fresh name of an import

  A linked definition with the name of the alias is imported under the first candidate name that is
  not in use. The search tries as many candidates as there are imports.

  * **Enough candidates**: candidates are pairwise distinct and none is the name of the alias. If
    all of the first `imports.length` were imported, the imports would hold these and the name of
    the alias besides, one name more than they have entries (`exists_free_candidate`).
  * **The first one wins**: the search stops at the first candidate not in use
    (`responseImport?_spec`). -/

namespace ClientGen.Operation

/-! ## Candidates -/

/-- Candidates are longer than every name that they must not meet. -/
theorem twelve_le_length_candidate (n : Nat) : 12 ≤ (candidate n).length := by
  cases n with
  | zero => decide
  | succ n =>
    have hstart : (Generated.response ++ "Type").length = 12 := by decide
    unfold candidate
    rw [String.length_append, hstart]
    omega

theorem candidate_ne_of_length_lt {name : String} (h : name.length < 12) (n : Nat) :
    candidate n ≠ name := by
  intro heq
  have hlong := twelve_le_length_candidate n
  rw [heq] at hlong
  omega

theorem candidate_ne_response (n : Nat) : candidate n ≠ Generated.response :=
  candidate_ne_of_length_lt (by decide) n

theorem candidate_ne_request (n : Nat) : candidate n ≠ Generated.request :=
  candidate_ne_of_length_lt (by decide) n

theorem candidate_ne_makeQuery (n : Nat) : candidate n ≠ Generated.makeQuery :=
  candidate_ne_of_length_lt (by decide) n

/-- Only the first candidate has no number behind it. -/
theorem candidate_zero_ne_succ (n : Nat) : candidate 0 ≠ candidate (n + 1) := by
  intro heq
  have hlength := congrArg String.length heq
  have hdigits : 0 < (n + 2).repr.length := Nat.length_repr_pos
  simp only [candidate, String.length_append, Nat.toString_eq_repr] at hlength
  omega

theorem candidate_injective : Function.Injective candidate := by
  intro m n heq
  cases m with
  | zero =>
    cases n with
    | zero => rfl
    | succ n => exact absurd heq (candidate_zero_ne_succ n)
  | succ m =>
    cases n with
    | zero => exact absurd heq.symm (candidate_zero_ne_succ m)
    | succ n =>
      -- Equal numerals have equal digits, and digits read back as their number.
      simp only [candidate, String.append_right_inj, Nat.toString_eq_repr] at heq
      have hdigits := congrArg String.toList heq
      rw [Nat.toList_repr, Nat.toList_repr] at hdigits
      have hvalue := congrArg (fun digits => Nat.ofDigitChars 10 digits 0) hdigits
      simp only [Nat.ofDigitChars_ten_toDigits] at hvalue
      omega

/-- A candidate is in use iff it is imported: it is never the name of a helper. -/
theorem isTaken_candidate_iff {imports : List String} {n : Nat} :
    isTaken imports (candidate n) = true ↔ candidate n ∈ imports := by
  simp [isTaken, candidate_ne_request, candidate_ne_makeQuery]

/-! ## Enough candidates -/

theorem exists_free_candidate {imports : List String} (h : Generated.response ∈ imports) :
    ∃ k < imports.length, candidate k ∉ imports := by
  by_contra hnone
  have hall : ∀ k < imports.length, candidate k ∈ imports := by
    intro k hk
    by_contra hfree
    exact hnone ⟨k, hk, hfree⟩
  -- The name of the alias and these candidates are distinct and all of them are imported, but they
  -- are one more than there are imports.
  have hnodup : (Generated.response :: (List.range imports.length).map candidate).Nodup := by
    refine List.nodup_cons.mpr ⟨?_, List.nodup_range.map candidate_injective⟩
    intro hmem
    obtain ⟨k, _, hk⟩ := List.mem_map.mp hmem
    exact candidate_ne_response k hk
  have hsub : (Generated.response :: (List.range imports.length).map candidate) ⊆ imports := by
    intro name hname
    rcases List.mem_cons.mp hname with rfl | hname
    · exact h
    · obtain ⟨k, hk, rfl⟩ := List.mem_map.mp hname
      exact hall k (List.mem_range.mp hk)
  have hlength := (hnodup.subperm hsub).length_le
  rw [List.length_cons, List.length_map, List.length_range] at hlength
  omega

/-! ## The search -/

/-- The search finds the first free candidate from its start on, if there is one within its fuel. -/
theorem freshFrom_spec {imports : List String} {fuel start k : Nat} (hk : k < fuel)
    (hfree : candidate (start + k) ∉ imports) :
    ∃ j ≤ k, freshFrom imports fuel start = candidate (start + j)
      ∧ candidate (start + j) ∉ imports ∧ ∀ i < j, candidate (start + i) ∈ imports := by
  induction fuel generalizing start k with
  | zero => omega
  | succ fuel ih =>
    unfold freshFrom
    by_cases htaken : candidate start ∈ imports
    · rw [if_pos (isTaken_candidate_iff.mpr htaken)]
      -- The start is taken, so the free candidate lies behind it.
      obtain ⟨k, rfl⟩ : ∃ k', k = k' + 1 := by
        cases k with
        | zero => exact absurd htaken hfree
        | succ k => exact ⟨k, rfl⟩
      have hshift : ∀ i, start + 1 + i = start + (i + 1) := by
        intro i
        omega
      obtain ⟨j, hj, heq, hfresh, hbefore⟩ := ih (k := k) (by omega) (by rwa [hshift])
      refine ⟨j + 1, by omega, by rw [heq, hshift], by rwa [← hshift], ?_⟩
      intro i hi
      cases i with
      | zero => exact htaken
      | succ i => exact hshift i ▸ hbefore i (by omega)
    · rw [if_neg (by rw [isTaken_candidate_iff]; exact htaken)]
      exact ⟨0, by omega, rfl, htaken, by omega⟩

/-- A definition with the name of the alias is imported under the first candidate that is not
    imported itself, found before as many candidates are tried as there are imports. -/
theorem responseImport?_spec {imports : List String} (h : Generated.response ∈ imports) :
    ∃ j < imports.length, responseImport? imports = some (candidate j)
      ∧ candidate j ∉ imports ∧ ∀ i < j, candidate i ∈ imports := by
  obtain ⟨k, hk, hfree⟩ := exists_free_candidate h
  have hfrom : candidate (0 + k) ∉ imports := by rwa [Nat.zero_add]
  obtain ⟨j, hj, heq, hfresh, hbefore⟩ := freshFrom_spec hk hfrom
  simp only [Nat.zero_add] at heq hfresh hbefore
  exact ⟨j, by omega, by simp [responseImport?, h, heq], hfresh, hbefore⟩

end ClientGen.Operation
