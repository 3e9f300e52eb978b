import Mathlib.Data.List.Perm.Basic
import ClientGen.Proofs.Package.Assembly

/-! # The order of a document

  Operations and definitions stand in some order, and the checks of a document go through them in
  that order, keeping what they have met. Still the order decides nothing: a document is accepted in
  one order exactly if it is in every other, and its units are the same, in the new order.

  * **`inOrder`**: the entries of a list as a list of positions arranges them.
  * **`assemble_inOrder`**: a package made of reordered operations and definitions is the reordered
    package. -/

namespace ClientGen

/-! ## Entries in another order -/

section

variable {α β : Type} {order : List Nat}

/-- The entries of a list at the given positions, in the order of these. -/
def inOrder (order : List Nat) (xs : List α) : List α := order.filterMap fun i => xs[i]?

theorem inOrder_map (f : α → β) (order : List Nat) (xs : List α) :
    inOrder order (xs.map f) = (inOrder order xs).map f := by
  unfold inOrder
  rw [List.map_filterMap]
  congr 1
  funext i
  exact List.getElem?_map

/-- In the order of the positions themselves a list stays as it is. -/
theorem inOrder_range (xs : List α) : inOrder (List.range xs.length) xs = xs := by
  induction xs with
  | nil => rfl
  | cons x rest ih =>
    -- From the second position on this is the rest of the list, one position further.
    have hlater : (List.range rest.length).filterMap (fun i => (x :: rest)[i + 1]?) = rest := ih
    unfold inOrder
    rw [List.length_cons, List.range_succ_eq_map, List.filterMap_cons, List.filterMap_map]
    exact congrArg (x :: ·) hlater

/-- If every position occurs once in an order, the list is permuted. -/
theorem inOrder_perm {xs : List α} (h : order.Perm (List.range xs.length)) :
    (inOrder order xs).Perm xs := by
  have hperm : (inOrder order xs).Perm (inOrder (List.range xs.length) xs) := h.filterMap _
  rwa [inOrder_range] at hperm

end

namespace Package

/-- A package with its operations and its definitions in other orders; the exports go with the
    operations. -/
def inOrder (p : Package) (order order' : List Nat) : Package where
  definitions := ClientGen.inOrder order' p.definitions
  operations := ClientGen.inOrder order p.operations
  exports := ClientGen.inOrder order p.exports

section

variable {operations operations' : List Operation}
  {definitions definitions' : List (String × Schema)}

/-- What is checked of a document does not depend on its order. -/
theorem exists_assemble_of_perm (hoperations : operations.Perm operations')
    (hdefinitions : definitions.Perm definitions')
    (h : ∃ p, (assemble operations definitions).result = .ok p) :
    ∃ p, (assemble operations' definitions').result = .ok p := by
  obtain ⟨_, hp⟩ := h
  obtain ⟨ids, names, accepted, _⟩ := assemble_eq_ok_iff.mp hp
  have hkeys : (OrderedMap.keys definitions).Perm (OrderedMap.keys definitions') :=
    hdefinitions.map Prod.fst
  -- None of the conditions depends on the order.
  refine ⟨_, assemble_eq_ok_iff.mpr ⟨?ids, ?names, ?accepted, rfl⟩⟩
  case ids => exact (hoperations.map Operation.id).nodup_iff.mp ids
  case names => exact (hkeys.map Text.lower).nodup_iff.mp names
  case accepted =>
    intro op hop
    exact accepted op (hoperations.mem_iff.mpr hop)

end

theorem packageOf_inOrder (operations : List Operation) (definitions : List (String × Schema))
    (order order' : List Nat) :
    packageOf (ClientGen.inOrder order operations) (ClientGen.inOrder order' definitions)
      = (packageOf operations definitions).inOrder order order' := by
  unfold packageOf inOrder
  simp only [inOrder_map]

/-- **The order does not matter**: let the operations and the definitions of a document be put into
    any order, each on its own. A package is made of them exactly if one is made in the first order,
    and then its definitions, its operations and its exports are those of the other package in the
    new order, each as it was. -/
theorem assemble_inOrder {operations : List Operation} {definitions : List (String × Schema)}
    {order order' : List Nat} (hoperations : order.Perm (List.range operations.length))
    (hdefinitions : order'.Perm (List.range definitions.length)) :
    ((∃ p, (assemble (ClientGen.inOrder order operations)
          (ClientGen.inOrder order' definitions)).result = .ok p)
        ↔ ∃ p, (assemble operations definitions).result = .ok p)
      ∧ ∀ p, (assemble operations definitions).result = .ok p →
          (assemble (ClientGen.inOrder order operations)
            (ClientGen.inOrder order' definitions)).result = .ok (p.inOrder order order') := by
  have hops := inOrder_perm hoperations
  have hdefs := inOrder_perm hdefinitions
  refine ⟨⟨exists_assemble_of_perm hops hdefs, exists_assemble_of_perm hops.symm hdefs.symm⟩, ?_⟩
  intro p hp
  -- A success in the new order comes first; both packages are then what `packageOf` makes.
  obtain ⟨p', hp'⟩ := exists_assemble_of_perm hops.symm hdefs.symm ⟨p, hp⟩
  rw [hp', assemble_eq_ok_imp hp', assemble_eq_ok_imp hp, packageOf_inOrder]

/-- Three operations, of which two link to definitions. -/
def linkedOperations : List Operation :=
  [{ id := "listPets", path := "/pets",
     responses := [("200", { schema := some (.linkTo "Pet") })] },
   { id := "getTag", path := "/tags/\x7btag\x7d",
     parameters := [{ name := "tag", carrier := .path, required := true }],
     responses := [("200", { schema := some (.linkTo "Tag") })] },
   { id := "ping", path := "/" }]

def linkedDefinitions : List (String × Schema) :=
  [("Pet", { kind := some "array", items := some (.linkTo "Tag") }), ("Tag", .ofKind "string")]

theorem assemble_inOrder_rotated :
    ∃ p, (assemble linkedOperations linkedDefinitions).result = .ok p
      ∧ (assemble (ClientGen.inOrder [2, 0, 1] linkedOperations)
          (ClientGen.inOrder [1, 0] linkedDefinitions)).result = .ok (p.inOrder [2, 0, 1] [1, 0])
      ∧ (p.inOrder [2, 0, 1] [1, 0]).exports.map Export.name = ["ping", "listPets", "getTag"] := by
  have made : ∃ p, (assemble linkedOperations linkedDefinitions).result = .ok p := ⟨_, rfl⟩
  obtain ⟨p, hp⟩ := made
  refine ⟨p, hp, (assemble_inOrder (by decide) (by decide)).2 p hp, ?_⟩
  rw [assemble_eq_ok_imp hp]
  rfl

end Package

end ClientGen
