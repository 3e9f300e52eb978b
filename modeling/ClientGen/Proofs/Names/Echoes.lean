/-! # Echoes

  Some entries of a list are told of only because an entry like them came before: a name that
  repeats, a definition that differs by case only, a payload behind another payload. Such an entry
  is an *echo*, and it is told together with the first entry that it agrees with. What agrees with
  what is a parameter.

  There is no echo exactly if no two entries agree (`echoes_eq_nil_iff`). -/

namespace ClientGen.Names

variable {α : Type} {agree : α → α → Bool}

/-- The echoes among the entries that follow `before`. -/
def echoesAfter (agree : α → α → Bool) (before : List α) : List α → List (α × α)
  | [] => []
  | x :: rest =>
    ((before.find? fun e => agree e x).map fun e => (e, x)).toList
      ++ echoesAfter agree (before ++ [x]) rest

/-- The entries of a list that agree with an earlier one, in order, each behind the first entry that
    it agrees with. -/
def echoes (agree : α → α → Bool) (xs : List α) : List (α × α) := echoesAfter agree [] xs

/-- Where everything agrees, all entries behind the first are echoes of it. -/
theorem echoesAfter_of_agree (h : ∀ e x, agree e x = true) (first : α) (before xs : List α) :
    echoesAfter agree (first :: before) xs = xs.map fun x => (first, x) := by
  induction xs generalizing before with
  | nil => rfl
  | cons x rest ih =>
    have hfind : ((first :: before).find? fun e => agree e x) = some first :=
      List.find?_cons_of_pos (h first x)
    rw [echoesAfter, hfind, List.cons_append, ih]
    rfl

theorem echoesAfter_eq_nil_iff {before xs : List α} :
    echoesAfter agree before xs = []
      ↔ (∀ x ∈ xs, ∀ e ∈ before, agree e x = false) ∧ xs.Pairwise fun e x => agree e x = false := by
  induction xs generalizing before with
  | nil => simp [echoesAfter]
  | cons x rest ih =>
    have hhead : ((before.find? fun e => agree e x).map fun e => (e, x)).toList = []
        ↔ ∀ e ∈ before, agree e x = false := by
      simp
    rw [echoesAfter, List.append_eq_nil_iff, hhead, ih, List.forall_mem_cons, List.pairwise_cons]
    -- The entry in front counts as met for the rest of the list.
    constructor
    · rintro ⟨hx, hrest, hpairs⟩
      refine ⟨⟨hx, fun y hy e he => hrest y hy e (List.mem_append_left _ he)⟩, ?_, hpairs⟩
      intro y hy
      exact hrest y hy x (List.mem_append_right _ (List.mem_singleton_self x))
    · rintro ⟨⟨hx, hrest⟩, hnext, hpairs⟩
      refine ⟨hx, ?_, hpairs⟩
      intro y hy e he
      rcases List.mem_append.mp he with he | he
      · exact hrest y hy e he
      · rw [List.mem_singleton.mp he]
        exact hnext y hy

theorem echoes_eq_nil_iff {xs : List α} :
    echoes agree xs = [] ↔ xs.Pairwise fun e x => agree e x = false := by
  simp [echoes, echoesAfter_eq_nil_iff]

end ClientGen.Names
