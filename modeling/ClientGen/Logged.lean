import ClientGen.Notice

/-! # Answers with notices

  Work on a document may fail, and it leaves notices on the way whether or not it fails. Notices
  are kept in the order in which they were given; after a failure none is added. -/

namespace ClientGen

/-- An answer or a failure, with the notices given on the way to it. -/
structure Logged (ε α : Type) where
  notices : List Notice
  result : Except ε α

namespace Logged

variable {ε ε' α β γ : Type}

def ok (a : α) : Logged ε α := ⟨[], .ok a⟩

def fail (e : ε) : Logged ε α := ⟨[], .error e⟩

/-- Gives notices. -/
def tell (notices : List Notice) : Logged ε Unit := ⟨notices, .ok ()⟩

def ofExcept (r : Except ε α) : Logged ε α := ⟨[], r⟩

/-- Goes on with an answer; a failure stays. -/
def andThen (x : Logged ε α) (f : α → Logged ε β) : Logged ε β :=
  match x.result with
  | .ok a => ⟨x.notices ++ (f a).notices, (f a).result⟩
  | .error e => ⟨x.notices, .error e⟩

theorem ok_andThen (a : α) (f : α → Logged ε β) : (ok a).andThen f = f a := by
  simp [andThen, ok]

theorem andThen_ok (x : Logged ε α) : x.andThen ok = x := by
  obtain ⟨notices, result⟩ := x
  cases result <;> simp [andThen, ok]

theorem andThen_assoc (x : Logged ε α) (f : α → Logged ε β) (g : β → Logged ε γ) :
    (x.andThen f).andThen g = x.andThen fun a => (f a).andThen g := by
  obtain ⟨notices, result⟩ := x
  cases result with
  | error e => simp [andThen]
  | ok a =>
    simp only [andThen]
    cases (f a).result <;> simp

instance : Monad (Logged ε) where
  pure := ok
  bind := andThen

instance : LawfulMonad (Logged ε) :=
  LawfulMonad.mk' (Logged ε) andThen_ok ok_andThen andThen_assoc

/-! ### Results of composed work -/

theorem result_bind (x : Logged ε α) (f : α → Logged ε β) :
    (x >>= f).result = x.result.bind fun a => (f a).result := by
  obtain ⟨notices, result⟩ := x
  cases result <;> rfl

/-- After a failure nothing more is done. -/
theorem bind_of_error {x : Logged ε α} {e : ε} (h : x.result = .error e) (f : α → Logged ε β) :
    x >>= f = ⟨x.notices, .error e⟩ := by
  obtain ⟨notices, result⟩ := x
  subst h
  rfl

/-- An answer is gone on with, and further notices stand behind those given before. -/
theorem bind_of_ok {x : Logged ε α} {a : α} (h : x.result = .ok a) (f : α → Logged ε β) :
    x >>= f = ⟨x.notices ++ (f a).notices, (f a).result⟩ := by
  obtain ⟨notices, result⟩ := x
  subst h
  rfl

/-- Notices stay when the answer behind them is turned into another. -/
theorem map_ok (notices : List Notice) (a : α) (f : α → β) :
    f <$> (⟨notices, .ok a⟩ : Logged ε α) = ⟨notices, .ok (f a)⟩ := by
  rw [map_eq_pure_bind]
  show andThen _ _ = _
  simp only [andThen]
  exact congrArg (fun ns => Logged.mk ns (.ok (f a))) (List.append_nil notices)

theorem notices_bind_pure (x : Logged ε α) (f : α → β) :
    (x >>= fun a => pure (f a)).notices = x.notices := by
  obtain ⟨notices, result⟩ := x
  cases result with
  | error e => rfl
  | ok a => exact List.append_nil notices

theorem result_pure (a : α) : (pure a : Logged ε α).result = .ok a := rfl

theorem result_tell (notices : List Notice) : (tell notices : Logged ε Unit).result = .ok () := rfl

theorem result_ofExcept (r : Except ε α) : (ofExcept r).result = r := rfl

/-- The same work with failures seen from further out. -/
def mapError (f : ε → ε') (x : Logged ε α) : Logged ε' α := ⟨x.notices, x.result.mapError f⟩

/-- Does the work for each entry of a list in turn, up to the first failure. -/
def forEach (f : α → Logged ε β) : List α → Logged ε (List β)
  | [] => ok []
  | a :: rest => do
    let b ← f a
    let bs ← forEach f rest
    return b :: bs

end Logged

end ClientGen
