import Mathlib.Algebra.Group.Nat.Defs
import ClientGen.Proofs.Operation.FreshImport

/-! # The search for a fresh name, attempt by attempt

  The search tries one name after the other until one is not in use. It has no other end, and it
  numbers its attempts with a machine word. Two things could therefore go wrong: every name is in
  use, or the numbers run out. `Search` is the search without any bound on the number of attempts,
  so whatever it reaches it reaches by itself.

  * **It ends in one way only** (`Search.unique`).
  * **It ends at the first free candidate**, as long as the numbers last up to there
    (`search_nth`).
  * **It ends early**: fewer names are rejected than there are imports, and the name that is found
    is the one that is used (`freshSearch_minimal`). The numbers last, because there are more of
    them than imports. -/

namespace ClientGen.Operation

/-! ## Attempts -/

structure Attempt where
  name : String
  /-- The number of the attempt, counted from one. -/
  number : Int32

namespace Attempt

/-- The search begins with the name that has no number behind it. -/
def first : Attempt := ⟨Generated.response ++ "Type", 1⟩

/-- The attempt that follows a rejected one: none if there is no next number. -/
def next? (a : Attempt) : Option Attempt :=
  if a.number = Int32.maxValue then none
  else some ⟨Generated.response ++ "Type" ++ toString (a.number + 1), a.number + 1⟩

/-- The attempt in front of which `n` others were rejected. -/
def nth (n : Nat) : Attempt := ⟨candidate n, Int32.ofNat (n + 1)⟩

theorem nth_zero : nth 0 = first := rfl

/-- Attempts follow one another through the candidates as long as there are numbers for them. -/
theorem next?_nth {n : Nat} (h : n + 2 < 2 ^ 31) : (nth n).next? = some (nth (n + 1)) := by
  have hmax : (nth n).number ≠ Int32.maxValue := by
    intro heq
    have hvalue := congrArg Int32.toInt heq
    rw [nth, Int32.toInt_ofNat_of_lt (by omega), Int32.toInt_maxValue] at hvalue
    omega
  have hnumber : (nth n).number + 1 = Int32.ofNat (n + 2) := (Int32.ofNat_add (n + 1) 1).symm
  -- A number is written as the natural number that it stands for.
  have htext : toString (Int32.ofNat (n + 2)) = toString (n + 2) := by
    show toString (Int32.ofNat (n + 2)).toInt = toString (n + 2)
    rw [Int32.toInt_ofNat_of_lt h]
    rfl
  rw [next?, if_neg hmax, hnumber, htext]
  rfl

end Attempt

/-! ## Runs of the search -/

/-- The runs of the search. `Search imports a n b` says that the search that has come to the attempt
    `a` rejects `n` more names and ends with the attempt `b`. -/
inductive Search (imports : List String) : Attempt → Nat → Attempt → Prop where
  /-- The name is not in use. -/
  | found {a : Attempt} : isTaken imports a.name = false → Search imports a 0 a
  /-- The name is in use, and the search goes on. -/
  | rejected {a b c : Attempt} {n : Nat} : isTaken imports a.name = true →
      a.next? = some b → Search imports b n c → Search imports a (n + 1) c

variable {imports : List String}

/-- Whether a name is in use and which attempt follows is settled, so there is one run. -/
theorem Search.unique {a b c : Attempt} {m n : Nat} (h : Search imports a m b)
    (h' : Search imports a n c) : n = m ∧ c = b := by
  -- Both runs end here, or both go on with the same attempt.
  induction h generalizing n c with
  | found hfree =>
    cases h' with
    | found => exact ⟨rfl, rfl⟩
    | rejected htaken => rw [hfree] at htaken; cases htaken
  | rejected htaken hnext _ ih =>
    cases h' with
    | found hfree => rw [hfree] at htaken; cases htaken
    | rejected _ hnext' hlater =>
      obtain rfl := Option.some.inj (hnext.symm.trans hnext')
      obtain ⟨rfl, rfl⟩ := ih hlater
      exact ⟨rfl, rfl⟩

/-- The search rejects the candidates that are imported and ends at the first that is not. -/
theorem search_nth (start rejected : Nat) (hfree : candidate (start + rejected) ∉ imports)
    (htaken : ∀ i < rejected, candidate (start + i) ∈ imports)
    (hnumbers : start + rejected + 1 < 2 ^ 31) :
    Search imports (.nth start) rejected (.nth (start + rejected)) := by
  induction rejected generalizing start with
  | zero =>
    apply Search.found
    rw [← Bool.not_eq_true]
    exact fun htaken => hfree (isTaken_candidate_iff.mp htaken)
  | succ rejected ih =>
    -- The candidate at the start is rejected, and the free one is one nearer to the next.
    have hshift : ∀ i, start + 1 + i = start + (i + 1) := by
      intro i
      omega
    have hlater : Search imports (.nth (start + 1)) rejected (.nth (start + (rejected + 1))) := by
      rw [← hshift rejected]
      refine ih (start + 1) (by rwa [hshift]) ?_ (by omega)
      intro i hi
      rw [hshift]
      exact htaken (i + 1) (by omega)
    exact .rejected (isTaken_candidate_iff.mpr (htaken 0 (by omega)))
      (Attempt.next?_nth (by omega)) hlater

/-! ## Where the search ends -/

/-- A name is the first free candidate, behind so many that are not free. -/
structure IsFirstFree (imports : List String) (rejected : Nat) (name : String) : Prop where
  /-- Fewer candidates come before it than there are imports. -/
  few : rejected < imports.length
  /-- It is the candidate behind them. -/
  name_eq : name = candidate rejected
  not_imported : name ∉ imports
  before_imported : ∀ i < rejected, candidate i ∈ imports
  ne_request : name ≠ Generated.request
  ne_makeQuery : name ≠ Generated.makeQuery

/-- **The search ends at the first free candidate**: it takes place exactly if the name of the alias
    is imported. It then has one run, which rejects fewer names than there are imports and never
    runs out of numbers, and what the run ends with is the name of the import. -/
theorem freshSearch_minimal (hshort : imports.length < 2 ^ 31) :
    (responseImport? imports = none ↔ Generated.response ∉ imports)
      ∧ (Generated.response ∈ imports → ∃ rejected found,
          (∀ n a, Search imports .first n a ↔ n = rejected ∧ a = found)
            ∧ responseImport? imports = some found.name
            ∧ IsFirstFree imports rejected found.name) := by
  constructor
  · simp [responseImport?]
  · intro himported
    obtain ⟨rejected, hfew, hname, hfree, hbefore⟩ := responseImport?_spec himported
    -- The last attempt has a number, since fewer attempts were made than there are imports.
    have hrun : Search imports .first rejected (.nth rejected) := by
      have hfrom := search_nth 0 rejected (by rwa [Nat.zero_add])
        (by simpa only [Nat.zero_add] using hbefore) (by omega)
      rwa [Attempt.nth_zero, Nat.zero_add] at hfrom
    refine ⟨rejected, .nth rejected, fun n a => ⟨hrun.unique, ?_⟩, hname, ?_⟩
    · rintro ⟨rfl, rfl⟩
      exact hrun
    · exact ⟨hfew, rfl, hfree, hbefore, candidate_ne_request rejected,
        candidate_ne_makeQuery rejected⟩

/-- Imports that hold the name of the alias and some of the candidates. -/
def takenCandidates : List String :=
  ["ResponseType3", "Pet", "Response", "ResponseType", "AjaxPipe", "ResponseType2"]

/-- Three candidates are rejected. -/
theorem freshSearch_takenCandidates :
    takenCandidates.length < 2 ^ 31 ∧ Generated.response ∈ takenCandidates
      ∧ (∃ rejected found,
          (∀ n a, Search takenCandidates .first n a ↔ n = rejected ∧ a = found)
            ∧ responseImport? takenCandidates = some found.name
            ∧ IsFirstFree takenCandidates rejected found.name)
      ∧ responseImport? takenCandidates = some "ResponseType4" := by
  have hshort : takenCandidates.length < 2 ^ 31 := by decide
  have himported : Generated.response ∈ takenCandidates := by decide
  exact ⟨hshort, himported, (freshSearch_minimal hshort).2 himported, by decide +kernel⟩

end ClientGen.Operation
