import ClientGen.Logged

/-! # Work on each entry of a list

  Entries are worked on one after the other, and the first failure ends the work.

  * **`forEach_eq_ok_iff`**: the work succeeds with what the work on each entry gives.
  * **`forEach_eq_error_iff`**: it fails as the work on the first entry does that cannot be done.
  * **`notices_forEach`**, **`notices_forEach_of_error`**: the notices are those of the entries in
    turn, in the second case up to that entry. -/

namespace ClientGen.Logged

variable {ε α β : Type} {f : α → Logged ε β}

theorem result_forEach_cons (a : α) (rest : List α) :
    (forEach f (a :: rest)).result
      = (f a).result.bind fun b => (forEach f rest).result.map (b :: ·) := by
  rw [forEach, result_bind]
  congr 1
  funext b
  rw [result_bind]
  rfl

/-- Work on a list succeeds with what the work on each entry gives. -/
theorem forEach_eq_ok_iff {as : List α} {bs : List β} :
    (forEach f as).result = .ok bs ↔ as.map (fun a => (f a).result) = bs.map .ok := by
  induction as generalizing bs with
  | nil =>
    have hnil : (forEach f []).result = .ok [] := rfl
    rw [hnil]
    cases bs <;> simp
  | cons a rest ih =>
    rw [result_forEach_cons, List.map_cons]
    cases bs with
    | nil =>
      cases (f a).result with
      | error e => simp [Except.bind]
      | ok b => cases (forEach f rest).result <;> simp [Except.bind, Except.map]
    -- Both lists begin with an entry. If the work on it succeeds, the other entries decide.
    | cons b bs =>
      rw [List.map_cons, List.cons.injEq, ← ih]
      cases (f a).result with
      | error e => simp [Except.bind]
      | ok b' => cases (forEach f rest).result <;> simp [Except.bind, Except.map]

/-- The work on some entry of a list fails, and the work on every entry before it succeeds. -/
def FailsFirst (f : α → Logged ε β) (as : List α) (e : ε) : Prop :=
  ∃ before a after, as = before ++ a :: after
    ∧ (∀ b ∈ before, ∃ done, (f b).result = .ok done) ∧ (f a).result = .error e

/-- Nothing can stand before an entry that fails. -/
theorem failsFirst_cons_of_error {a : α} {rest : List α} {e e' : ε}
    (ha : (f a).result = .error e') : FailsFirst f (a :: rest) e ↔ e' = e := by
  constructor
  · rintro ⟨before, b, after, hsplit, hbefore, hb⟩
    cases before with
    | nil =>
      obtain ⟨rfl, rfl⟩ := List.cons.inj hsplit
      rw [ha] at hb
      exact Except.error.inj hb
    -- The first entry would be one of those on which the work succeeds.
    | cons c before =>
      obtain ⟨rfl, _⟩ := List.cons.inj hsplit
      obtain ⟨done, hdone⟩ := hbefore a (List.mem_cons_self ..)
      rw [ha] at hdone
      cases hdone
  · rintro rfl
    exact ⟨[], a, rest, rfl, by simp, ha⟩

theorem failsFirst_cons_of_ok {a : α} {rest : List α} {e : ε} {done : β}
    (ha : (f a).result = .ok done) : FailsFirst f (a :: rest) e ↔ FailsFirst f rest e := by
  constructor
  · rintro ⟨before, b, after, hsplit, hbefore, hb⟩
    cases before with
    -- The first entry would be the failing one.
    | nil =>
      obtain ⟨rfl, _⟩ := List.cons.inj hsplit
      rw [ha] at hb
      cases hb
    | cons c before =>
      obtain ⟨rfl, hrest⟩ := List.cons.inj hsplit
      exact ⟨before, b, after, hrest, (List.forall_mem_cons.mp hbefore).2, hb⟩
  · rintro ⟨before, b, after, rfl, hbefore, hb⟩
    refine ⟨a :: before, b, after, rfl, ?_, hb⟩
    rw [List.forall_mem_cons]
    exact ⟨⟨done, ha⟩, hbefore⟩

/-- Work on a list fails as the work on the first entry does that cannot be done. -/
theorem forEach_eq_error_iff {as : List α} {e : ε} :
    (forEach f as).result = .error e ↔ FailsFirst f as e := by
  induction as with
  | nil =>
    have hnil : (forEach f []).result = .ok [] := rfl
    rw [hnil]
    simp [FailsFirst]
  | cons a rest ih =>
    rw [result_forEach_cons]
    -- The first entry fails, or it is passed and the failure is one of the rest.
    cases ha : (f a).result with
    | error e' =>
      rw [failsFirst_cons_of_error ha]
      simp [Except.bind]
    | ok done =>
      rw [failsFirst_cons_of_ok ha, ← ih, Except.bind]
      cases (forEach f rest).result <;> simp [Except.map]

/-! ## Notices -/

/-- Entries on which the work succeeds leave their notices in front of those of the others. -/
theorem notices_forEach_append {before : List α} (h : ∀ a ∈ before, ∃ done, (f a).result = .ok done)
    (rest : List α) :
    (forEach f (before ++ rest)).notices
      = before.flatMap (fun a => (f a).notices) ++ (forEach f rest).notices := by
  induction before with
  | nil => rfl
  | cons a before ih =>
    obtain ⟨⟨done, hdone⟩, hbefore⟩ := List.forall_mem_cons.mp h
    rw [List.cons_append, forEach, bind_of_ok hdone, notices_bind_pure, ih hbefore,
      List.flatMap_cons, List.append_assoc]

theorem notices_forEach {as : List α} (h : ∀ a ∈ as, ∃ done, (f a).result = .ok done) :
    (forEach f as).notices = as.flatMap fun a => (f a).notices := by
  have happend := notices_forEach_append h []
  rw [List.append_nil] at happend
  rw [happend]
  exact List.append_nil _

/-- Behind a failure there are no notices. -/
theorem notices_forEach_of_error {before after : List α} {a : α} {e : ε}
    (h : ∀ b ∈ before, ∃ done, (f b).result = .ok done) (ha : (f a).result = .error e) :
    (forEach f (before ++ a :: after)).notices
      = before.flatMap (fun b => (f b).notices) ++ (f a).notices := by
  rw [notices_forEach_append h, forEach, bind_of_error ha]

end ClientGen.Logged
