/-! # Lists of names

  Names reach the generator in document order and are often repeated: imports, placeholders,
  operation ids. The two reductions used for them keep that order.

  * **`firstSeen`** keeps each name where it occurs first.
  * **`repeated`** reports each name that occurs more than once, where it occurs first. -/

namespace ClientGen.Names

variable {α : Type} [DecidableEq α]

/-! ## First occurrences -/

/-- The first occurrences in a list of the names that are not in `seen`. -/
def firstSeenAfter (seen : List α) : List α → List α
  | [] => []
  | n :: rest =>
    if n ∈ seen then firstSeenAfter seen rest else n :: firstSeenAfter (n :: seen) rest

/-- The names of a list without repetitions, ordered by first occurrence. -/
def firstSeen (names : List α) : List α := firstSeenAfter [] names

/-! ## Repetitions -/

/-- Counts one more occurrence of a name; a new name is counted at the end. -/
def countIn (n : α) : List (α × Nat) → List (α × Nat)
  | [] => [(n, 1)]
  | (m, k) :: rest => if m = n then (m, k + 1) :: rest else (m, k) :: countIn n rest

/-- How often each name occurs, ordered by first occurrence. -/
def tally (names : List α) : List (α × Nat) := names.foldl (fun counts n => countIn n counts) []

/-- The names that occur more than once, each listed once, ordered by first occurrence. -/
def repeated (names : List α) : List α :=
  ((tally names).filter fun entry => 1 < entry.2).map Prod.fst

end ClientGen.Names
