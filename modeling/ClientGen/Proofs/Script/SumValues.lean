import ClientGen.Proofs.Script.Evaluation
import ClientGen.Proofs.Script.Lowering

/-! # Values of sums

  A template writes what is filled in and joins it. A plus sign does so only if one of its operands
  is a text; otherwise it adds. The sum of a template begins with a text, so a text is on the left
  of every plus sign in it, and the sum has the value of the template.

  * **`eval?_sumOfTemplate`** says this for every template. Where something cannot be written, the
    template and the sum both have no value.
  * **`eval?_lower`**: an expression as a whole keeps its value when all its templates are replaced.
  * **`eval?_sumOfTemplate_text`**: without objects everything can be written, numbers included, so
    the value is a text. -/

namespace ClientGen

variable {ν : Type} {numbers : Numbers ν} {scope : Scope ν}

namespace Expr

open Script

/-! ## Sums that begin with a text -/

def form? (numbers : Numbers ν) (scope : Scope ν) (e : Expr) : Option String :=
  (e.eval? numbers scope).bind (Value.form? numbers)

theorem join?_fill (e : Expr) (rest : List TemplatePiece) :
    join? numbers scope (.fill e :: rest)
      = (e.form? numbers scope).bind fun form => (join? numbers scope rest).map (form ++ ·) := by
  rw [join?, form?]
  cases e.eval? numbers scope with
  | none => rfl
  | some v => cases v.form? numbers <;> cases join? numbers scope rest <;> rfl

theorem eval?_concat_of_text {left : Expr} {s : String}
    (h : left.eval? numbers scope = some (.text s)) (right : Expr) :
    (Expr.concat left right).eval? numbers scope
      = (right.form? numbers scope).map fun form => .text (s ++ form) := by
  rw [eval?, h, form?]
  cases right.eval? numbers scope with
  | none => rfl
  | some v => exact Value.plus?_text numbers s v

/-- A sum has no value if its first operand has none. -/
theorem eval?_foldl_of_none (es : List Expr) {left : Expr}
    (h : left.eval? numbers scope = none) :
    (es.foldl .concat left).eval? numbers scope = none := by
  induction es generalizing left with
  | nil => exact h
  | cons e rest ih =>
    apply ih
    rw [eval?, h]
    rfl

/-- Behind a text a sum goes on as a template does. -/
theorem eval?_foldl_of_text (es : List Expr) {left : Expr} {s : String}
    (h : left.eval? numbers scope = some (.text s)) :
    (es.foldl .concat left).eval? numbers scope
      = (join? numbers scope (es.map .fill)).map fun t => .text (s ++ t) := by
  induction es generalizing left s with
  | nil => simp [h, join?]
  | cons e rest ih =>
    have hsum := eval?_concat_of_text h e
    rw [List.foldl_cons, List.map_cons, join?_fill]
    cases hform : e.form? numbers scope with
    | none =>
      rw [hform] at hsum
      rw [eval?_foldl_of_none rest hsum]
      rfl
    | some form =>
      -- The text in front has grown by what was written.
      rw [hform] at hsum
      rw [ih hsum]
      simp [Function.comp_def, String.append_assoc]

theorem eval?_sum_cons (s : String) (rest : List Expr) :
    (sum (.text s :: rest)).eval? numbers scope
      = (join? numbers scope ((Expr.text s :: rest).map .fill)).map .text := by
  have hfirst : (Expr.text s).form? numbers scope = some s := rfl
  have hfold : (sum (.text s :: rest)).eval? numbers scope
      = (join? numbers scope (rest.map .fill)).map fun t => .text (s ++ t) :=
    eval?_foldl_of_text rest rfl
  rw [hfold, List.map_cons, join?_fill, hfirst]
  simp [Function.comp_def]

/-! ## Templates -/

/-- A text is joined in the same way whether it is a part or filled in. -/
theorem join?_fill_text (s : String) (rest : List TemplatePiece) :
    join? numbers scope (.fill (.text s) :: rest) = join? numbers scope (.text s :: rest) := by
  rw [join?_fill, join?]
  cases join? numbers scope rest <;> rfl

theorem join?_empty (rest : List TemplatePiece) :
    join? numbers scope (.text "" :: rest) = join? numbers scope rest := by
  rw [join?]
  cases join? numbers scope rest <;> simp

/-- Summands are joined as the parts are that they come from: empty texts add nothing, neither those
    that are left out nor the one that may be put in front. -/
theorem join?_summands (parts : List TemplatePiece) :
    join? numbers scope ((summands parts).map .fill) = join? numbers scope parts := by
  -- Empty texts add nothing, whether one is left out or put in front.
  have hparts : join? numbers scope ((parts.filterMap summand?).map .fill)
      = join? numbers scope parts := by
    induction parts with
    | nil => rfl
    | cons part rest ih =>
      cases part with
      | fill e => rw [filterMap_summand?_fill, List.map_cons, join?_fill, join?_fill, ih]
      | text s =>
        by_cases hs : s = ""
        · rw [hs, filterMap_summand?_empty, ih, join?_empty]
        · rw [filterMap_summand?_text hs, List.map_cons, join?_fill_text, join?, join?, ih]
  unfold summands
  split
  · exact hparts
  · rw [List.singleton_append, List.map_cons, join?_fill_text, join?_empty, hparts]

/-- The sum of a template has the value of the template. -/
theorem eval?_sumOfTemplate (parts : List TemplatePiece) :
    (sumOfTemplate parts).eval? numbers scope = (Expr.template parts).eval? numbers scope := by
  obtain ⟨s, rest, hsummands⟩ := exists_summands parts
  rw [sumOfTemplate, hsummands, eval?_sum_cons, ← hsummands, join?_summands, eval?]

/-! ## Whole expressions -/

theorem evalAll?_congr {f : Expr → Expr} {es : List Expr}
    (h : ∀ e ∈ es, (f e).eval? numbers scope = e.eval? numbers scope) :
    evalAll? numbers scope (es.map f) = evalAll? numbers scope es := by
  induction es with
  | nil => rfl
  | cons e rest ih =>
    rw [List.forall_mem_cons] at h
    rw [List.map_cons, evalAll?, evalAll?, h.1, ih h.2]

theorem evalMembers?_congr {f : Expr → Expr} {members : List (String × Expr)}
    (h : ∀ m ∈ members, (f m.2).eval? numbers scope = m.2.eval? numbers scope) :
    evalMembers? numbers scope (members.map fun m => (m.1, f m.2))
      = evalMembers? numbers scope members := by
  induction members with
  | nil => rfl
  | cons m rest ih =>
    rw [List.forall_mem_cons] at h
    rw [List.map_cons, evalMembers?, evalMembers?, h.1, ih h.2]

theorem join?_congr {f : Expr → Expr} {es : List Expr}
    (h : ∀ e ∈ es, (f e).eval? numbers scope = e.eval? numbers scope) :
    join? numbers scope ((es.map f).map .fill) = join? numbers scope (es.map .fill) := by
  induction es with
  | nil => rfl
  | cons e rest ih =>
    rw [List.forall_mem_cons] at h
    rw [List.map_cons, List.map_cons, List.map_cons, join?, join?, h.1, ih h.2]

/-- An expression keeps its value when all its templates are replaced. -/
theorem eval?_lower (e : Expr) : (lower e).eval? numbers scope = e.eval? numbers scope := by
  induction e using Expr.induct with
  | ident name => rfl
  | text value => rfl
  | template parts ih =>
    -- The induction is about the parts, but what is evaluated are the summands.
    have hparts : ∀ e ∈ summands parts, (lower e).eval? numbers scope = e.eval? numbers scope := by
      intro e he
      rcases mem_summands he with ⟨s, rfl⟩ | he
      · rfl
      · exact ih e he
    obtain ⟨s, rest, hsummands⟩ := exists_summands parts
    have hjoin := join?_congr hparts
    rw [← eval?_sumOfTemplate, sumOfTemplate, lower_template, hsummands, eval?_sum_cons,
      ← hsummands, ← hjoin, hsummands, List.map_cons, lower, eval?_sum_cons]
  | concat left right hleft hright => rw [lower, eval?, eval?, hleft, hright]
  | call callee arguments ih => rw [lower, eval?, eval?, lowerAll_eq, evalAll?_congr ih]
  | construct callee arguments ih => rw [lower, eval?, eval?, lowerAll_eq, evalAll?_congr ih]
  | object members ih => rw [lower, eval?, eval?, lowerMembers_eq, evalMembers?_congr ih]

end Expr

/-! ## Values that can be written -/

def Value.IsScalar : Value ν → Prop
  | .text _ => True
  | .number _ => True
  | .object _ => False

/-- Whether names and functions have texts and numbers as values. -/
structure Scope.IsScalar (scope : Scope ν) : Prop where
  /-- Every identifier has such a value. -/
  value : ∀ name, ∃ v, scope.value name = some v ∧ v.IsScalar
  /-- Every function has such a result, whatever its arguments are. -/
  call : ∀ callee arguments, ∃ v, scope.call callee arguments = some v ∧ v.IsScalar

theorem Value.IsScalar.exists_form (numbers : Numbers ν) {v : Value ν} (h : v.IsScalar) :
    ∃ form, v.form? numbers = some form := by
  cases v with
  | text value => exact ⟨value, rfl⟩
  | number value => exact ⟨numbers.write value, rfl⟩
  | object members => exact h.elim

/-- Texts and numbers can be added or joined, which gives a text or a number. -/
theorem Value.IsScalar.exists_plus {left right : Value ν} (hleft : left.IsScalar)
    (hright : right.IsScalar) : ∃ v, Value.plus? numbers left right = some v ∧ v.IsScalar := by
  cases left with
  | object members => exact hleft.elim
  | text s =>
    obtain ⟨form, hform⟩ := hright.exists_form numbers
    exact ⟨_, Value.plus?_text_left hform, trivial⟩
  | number n =>
    cases right with
    | object members => exact hright.elim
    | number m => exact ⟨_, rfl, trivial⟩
    | text s => exact ⟨_, Value.plus?_text_right rfl, trivial⟩

namespace Expr

/-- An expression made of names, texts, templates, sums and calls of functions. -/
inductive ObjectFree : Expr → Prop where
  | ident (name : String) : ObjectFree (.ident name)
  | text (value : String) : ObjectFree (.text value)
  | template {parts : List TemplatePiece} :
      (∀ e, .fill e ∈ parts → ObjectFree e) → ObjectFree (.template parts)
  | concat {left right : Expr} :
      ObjectFree left → ObjectFree right → ObjectFree (.concat left right)
  | call {callee : String} {arguments : List Expr} :
      (∀ e ∈ arguments, ObjectFree e) → ObjectFree (.call callee arguments)

theorem exists_evalAll? {es : List Expr}
    (h : ∀ e ∈ es, ∃ v, e.eval? numbers scope = some v ∧ v.IsScalar) :
    ∃ values, evalAll? numbers scope es = some values := by
  induction es with
  | nil => exact ⟨[], rfl⟩
  | cons e rest ih =>
    rw [List.forall_mem_cons] at h
    obtain ⟨⟨v, hv, _⟩, hrest⟩ := h
    obtain ⟨values, hvalues⟩ := ih hrest
    exact ⟨v :: values, by rw [evalAll?, hv, hvalues]; rfl⟩

theorem exists_join? {parts : List TemplatePiece}
    (h : ∀ e, .fill e ∈ parts → ∃ v, e.eval? numbers scope = some v ∧ v.IsScalar) :
    ∃ text, join? numbers scope parts = some text := by
  induction parts with
  | nil => exact ⟨"", rfl⟩
  | cons part rest ih =>
    obtain ⟨text, htext⟩ := ih fun e he => h e (List.mem_cons_of_mem _ he)
    cases part with
    | text s => exact ⟨s ++ text, by rw [join?, htext]; rfl⟩
    | fill e =>
      obtain ⟨v, hv, hscalar⟩ := h e List.mem_cons_self
      -- Texts and numbers can both be written.
      obtain ⟨form, hform⟩ := hscalar.exists_form numbers
      have hwritten : e.form? numbers scope = some form := by
        rw [form?, hv, Option.bind_some, hform]
      exact ⟨form ++ text, by rw [join?_fill, hwritten, htext]; rfl⟩

/-- Without objects an expression has a text or a number as its value. -/
theorem ObjectFree.exists_eval? {e : Expr} (h : e.ObjectFree) (hscope : scope.IsScalar) :
    ∃ v, e.eval? numbers scope = some v ∧ v.IsScalar := by
  induction h with
  | ident name => exact hscope.value name
  | text value => exact ⟨.text value, rfl, trivial⟩
  | template _ ih =>
    obtain ⟨text, htext⟩ := exists_join? ih
    exact ⟨.text text, by rw [eval?, htext]; rfl, trivial⟩
  | concat _ _ hleft hright =>
    obtain ⟨left, hl, hleft⟩ := hleft
    obtain ⟨right, hr, hright⟩ := hright
    rw [eval?_concat hl hr]
    exact hleft.exists_plus hright
  | @call callee arguments _ ih =>
    obtain ⟨values, hvalues⟩ := exists_evalAll? ih
    obtain ⟨v, hv, hscalar⟩ := hscope.call callee values
    exact ⟨v, by rw [eval?, hvalues]; exact hv, hscalar⟩

/-- **The value of a sum**: whatever texts and numbers its names and functions stand for, a template
    without objects in it has a text as its value, and the sum that it is replaced by has the same
    text. Numbers in it are written and never added to one another. -/
theorem eval?_sumOfTemplate_text {parts : List TemplatePiece}
    (objectFree : ∀ e, .fill e ∈ parts → e.ObjectFree) (scalar : scope.IsScalar) :
    ∃ text, (Script.sumOfTemplate parts).eval? numbers scope = some (.text text)
      ∧ (Expr.template parts).eval? numbers scope = some (.text text) := by
  obtain ⟨text, htext⟩ : ∃ text, join? numbers scope parts = some text :=
    exists_join? fun e he => (objectFree e he).exists_eval? scalar
  have htemplate : (Expr.template parts).eval? numbers scope = some (.text text) := by
    rw [eval?, htext]
    rfl
  exact ⟨text, by rw [eval?_sumOfTemplate, htemplate], htemplate⟩

def strokes : Numbers Nat := ⟨(· + ·), fun n => String.ofList (List.replicate n '|')⟩

/-- The name `n` stands for a number, other names for themselves. Functions count their
    arguments. -/
def countingScope : Scope Nat where
  value name := some (if name = "n" then .number 2 else .text name)
  call _ arguments := some (.number arguments.length)
  construct _ _ := none

/-- Parts with numbers side by side, a sum of numbers, an empty template and an empty text, of which
    none begins with a text. -/
def numberParts : List TemplatePiece :=
  [.fill (.ident "n"), .fill (.ident "n"), .text "", .fill (.concat (.ident "n") (.ident "n")),
    .fill (.template []), .fill (.call "count" [.ident "n", .text "a"])]

theorem eval?_sumOfTemplate_numberParts :
    (∀ e, .fill e ∈ numberParts → e.ObjectFree) ∧ countingScope.IsScalar
      ∧ ∃ text, (Script.sumOfTemplate numberParts).eval? strokes countingScope = some (.text text)
        ∧ (Expr.template numberParts).eval? strokes countingScope = some (.text text) := by
  have objectFree : ∀ e, .fill e ∈ numberParts → e.ObjectFree := by
    intro e he
    simp only [numberParts, List.mem_cons, TemplatePiece.fill.injEq, reduceCtorEq, false_or,
      List.not_mem_nil, or_false] at he
    rcases he with rfl | rfl | rfl | rfl | rfl
    · exact .ident "n"
    · exact .ident "n"
    · exact .concat (.ident "n") (.ident "n")
    · exact .template (by simp)
    · exact .call (by simp [ObjectFree.ident, ObjectFree.text])
  have scalar : countingScope.IsScalar := by
    refine ⟨fun name => ⟨_, rfl, ?_⟩, fun callee arguments => ⟨_, rfl, trivial⟩⟩
    split <;> trivial
  exact ⟨objectFree, scalar, eval?_sumOfTemplate_text objectFree scalar⟩

end Expr

end ClientGen
