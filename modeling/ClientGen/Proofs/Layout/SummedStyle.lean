import ClientGen.Proofs.Script.Lowering

/-! # Writing without templates

  In the dialect without templates an expression is written in one walk: templates are not replaced
  first, and no expression without templates is ever made. The text is still that of the expression
  without templates.

  * **`Writes`** gives the rules of a writer that replaces each template when it comes to it and
    then writes the sum. It ends on every expression, with the text of the walk (`writes_iff`).
  * **`expr_lower`**: where templates are kept, the expression without templates has this text.
  * **`isSum_lower`**: the two take the same expressions for sums, so parentheses stand in the same
    places. A template is a sum unless it has one summand only.

  `writtenLowered_lower` puts these together. -/

namespace ClientGen.Layout

open Script

variable {style : TemplateStyle} {level : Nat}

/-! ## Sums -/

/-- A summand as it is written, with the mark of being a sum itself. -/
def writtenSummand (style : TemplateStyle) (level : Nat) (e : Expr) : String × Bool :=
  (expr style level e, isSum style e)

theorem expr_sum (es : List Expr) :
    expr style level (sum es) = writeSum (es.map (writtenSummand style level)) := by
  cases es with
  | nil => rw [sum, expr, List.map_nil, writeSum]
  | cons first rest =>
    rw [List.map_cons, sum, writtenSummand, writeSum, List.foldl_map]
    exact (List.foldl_hom (expr style level) fun _ _ => rfl).symm

theorem isSum_sum_cons (first : Expr) (rest : List Expr) :
    isSum style (sum (first :: rest)) = (isSum style first || !rest.isEmpty) := by
  cases rest with
  | nil => simp [sum]
  | cons e rest =>
    -- After the first plus sign it is a sum and stays one.
    have hsum : isSum style (sum (first :: e :: rest)) = true :=
      List.foldlRecOn rest .concat (motive := fun e => isSum style e = true) rfl fun _ _ _ _ => rfl
    simp [hsum]

/-! ## Templates -/

theorem writtenSummands_eq (parts : List TemplatePiece) :
    writtenSummands style level parts
      = (parts.filterMap summand?).map (writtenSummand style level) := by
  induction parts with
  | nil => rfl
  | cons part rest ih =>
    cases part with
    | fill e =>
      rw [writtenSummands, ih, filterMap_summand?_fill, List.map_cons, writtenSummand]
    | text s =>
      have hwritten : writtenSummand style level (.text s) = (quote s, false) := rfl
      rw [writtenSummands]
      by_cases hs : s = ""
      · rw [if_pos hs, ih, hs, filterMap_summand?_empty]
      · rw [if_neg hs, ih, filterMap_summand?_text hs, List.map_cons, hwritten]

/-- A template is written as its sum is. -/
theorem expr_template (level : Nat) (parts : List TemplatePiece) :
    expr .summed level (.template parts) = expr .summed level (sumOfTemplate parts) := by
  rw [expr, sumOfTemplate, expr_sum, summands, List.map_append, startSum, writtenSummands_eq]
  split <;> rfl

/-- Whether a template counts as a sum is told from the number of its summands. It is one whatever
    becomes of these, as long as the text in front stays a text. -/
theorem isSum_template (style : TemplateStyle) {f : Expr → Expr} (h : ∀ s, f (.text s) = .text s)
    (parts : List TemplatePiece) :
    isSum style (sum ((summands parts).map f)) = isSum .summed (.template parts) := by
  obtain ⟨s, rest, hsummands⟩ := exists_summands parts
  rw [hsummands, List.map_cons, h, isSum_sum_cons]
  cases rest <;> simp [isSum, hsummands]

/-- Whether an expression is a sum, or a template that is replaced by one. -/
def becomesSum : Expr → Bool
  | .template parts => isSum .backquoted (sumOfTemplate parts)
  | e => isSum .backquoted e

theorem becomesSum_eq (e : Expr) : becomesSum e = isSum .summed e := by
  cases e with
  | template parts =>
    have hkeep : ∀ s, id (Expr.text s) = .text s := fun _ => rfl
    have hsum := isSum_template .backquoted hkeep parts
    rwa [List.map_id] at hsum
  | _ => rfl

/-! ## The expression without templates -/

/-- An expression is written as a sum exactly if without templates it is one. -/
theorem isSum_lower (e : Expr) : isSum .backquoted (lower e) = isSum .summed e := by
  cases e with
  | template parts =>
    rw [lower_template]
    exact isSum_template .backquoted (fun _ => rfl) parts
  | _ => rfl

theorem exprs_lower {es : List Expr}
    (h : ∀ e ∈ es, expr .backquoted level (lower e) = expr .summed level e) :
    exprs .backquoted level (lowerAll es) = exprs .summed level es := by
  rw [exprs_eq, exprs_eq, lowerAll_eq, List.map_map]
  exact List.map_congr_left h

theorem memberTexts_lower {members : List (String × Expr)}
    (h : ∀ m ∈ members, expr .backquoted level (lower m.2) = expr .summed level m.2) :
    memberTexts .backquoted level (lowerMembers members) = memberTexts .summed level members := by
  rw [memberTexts_eq, memberTexts_eq, lowerMembers_eq, List.map_map]
  apply List.map_congr_left
  intro m hm
  rw [Function.comp_apply, h m hm]

/-- Where templates are kept, the expression without templates has the text that the expression has
    where they become sums. -/
theorem expr_lower (e : Expr) :
    ∀ level, expr .backquoted level (lower e) = expr .summed level e := by
  -- The level changes below an object, so the induction is on the expression for all levels.
  induction e using Expr.induct with
  | ident name => exact fun _ => rfl
  | text value => exact fun _ => rfl
  | template parts ih =>
    intro level
    rw [lower_template, expr_sum, List.map_map, expr_template, sumOfTemplate, expr_sum]
    congr 1
    apply List.map_congr_left
    intro e he
    rw [Function.comp_apply, writtenSummand, writtenSummand, isSum_lower]
    -- Texts are written in one way only; what is filled in is smaller than the template.
    rcases mem_summands he with ⟨s, rfl⟩ | he
    · rfl
    · rw [ih e he level]
  | concat left right hleft hright =>
    intro level
    rw [lower, expr, expr, hleft, hright, isSum_lower]
  | call callee arguments ih =>
    intro level
    rw [lower, expr, expr, exprs_lower fun e he => ih e he level]
  | construct callee arguments ih =>
    intro level
    rw [lower, expr, expr, exprs_lower fun e he => ih e he level]
  | object members ih =>
    intro level
    rw [lower, expr, expr, memberTexts_lower fun m hm => ih m hm (level + 1)]

/-! ## Replacing templates while writing -/

/-- `Writes level e text` says that writing `e` on a line of the given level ends with `text`, where
    a template is replaced by the sum of its parts when it is come to. -/
inductive Writes : Nat → Expr → String → Prop where
  | ident (level : Nat) (name : String) : Writes level (.ident name) name
  | text (level : Nat) (value : String) : Writes level (.text value) (quote value)
  /-- A template is written as the sum that it is replaced by. -/
  | template {level : Nat} {parts : List TemplatePiece} {text : String} :
      Writes level (sumOfTemplate parts) text → Writes level (.template parts) text
  /-- A right operand that is a sum, or a template that becomes one, stands in parentheses. -/
  | concat {level : Nat} {left right : Expr} {leftText rightText : String} :
      Writes level left leftText → Writes level right rightText →
      Writes level (.concat left right)
        (leftText ++ " + " ++ operand (becomesSum right) rightText)
  | call {level : Nat} {callee : String} {arguments : List Expr} {text : Expr → String} :
      (∀ e ∈ arguments, Writes level e (text e)) →
      Writes level (.call callee arguments)
        (callee ++ "(" ++ ", ".intercalate (arguments.map text) ++ ")")
  | construct {level : Nat} {callee : String} {arguments : List Expr} {text : Expr → String} :
      (∀ e ∈ arguments, Writes level e (text e)) →
      Writes level (.construct callee arguments)
        ("new " ++ callee ++ "(" ++ ", ".intercalate (arguments.map text) ++ ")")
  /-- The members of an object are written one level further in. -/
  | object {level : Nat} {members : List (String × Expr)} {text : Expr → String} :
      (∀ m ∈ members, Writes (level + 1) m.2 (text m.2)) →
      Writes level (.object members)
        (Text.bracketed "\x7b" "\x7d" level
          (members.map fun m => keyText m.1 ++ ": " ++ text m.2))

theorem Writes.eq_expr {e : Expr} {text : String} (h : Writes level e text) :
    text = expr .summed level e := by
  induction h with
  | ident level name => rfl
  | text level value => rfl
  | template _ ih => rw [ih, expr_template]
  | concat _ _ hleft hright => rw [hleft, hright, becomesSum_eq, expr]
  | call _ ih => rw [expr, exprs_eq, List.map_congr_left ih]
  | construct _ ih => rw [expr, exprs_eq, List.map_congr_left ih]
  | object _ ih =>
    rw [expr, memberTexts_eq]
    congr 1
    apply List.map_congr_left
    intro m hm
    rw [ih m hm]

theorem writes_concat {left right : Expr} (hleft : Writes level left (expr .summed level left))
    (hright : Writes level right (expr .summed level right)) :
    Writes level (.concat left right) (expr .summed level (.concat left right)) := by
  rw [expr, ← becomesSum_eq]
  exact .concat hleft hright

/-- Writing ends on every expression. -/
theorem writes_expr (e : Expr) : ∀ level, Writes level e (expr .summed level e) := by
  induction e using Expr.induct with
  | ident name => exact fun level => .ident level name
  | text value => exact fun level => .text level value
  | template parts ih =>
    intro level
    -- The sum is not below the template, but what it is made of is.
    rw [expr_template]
    apply Writes.template
    exact sumOfTemplate_induct (motive := fun e => Writes level e (expr .summed level e))
      (.text level) (fun _ _ => writes_concat) fun e he => ih e he level
  | concat left right hleft hright => exact fun level => writes_concat (hleft level) (hright level)
  | call callee arguments ih =>
    intro level
    rw [expr, exprs_eq]
    exact .call fun e he => ih e he level
  | construct callee arguments ih =>
    intro level
    rw [expr, exprs_eq]
    exact .construct fun e he => ih e he level
  | object members ih =>
    intro level
    rw [expr, memberTexts_eq]
    exact .object fun m hm => ih m hm (level + 1)

/-- Writing ends with the text of the walk. -/
theorem writes_iff {e : Expr} {text : String} :
    Writes level e text ↔ text = expr .summed level e := by
  constructor
  · exact Writes.eq_expr
  · rintro rfl
    exact writes_expr e level

/-! ## Agreement -/

/-- The expression `e` is written without templates as `text`, and `tree` is what is written. -/
structure WrittenLowered (level : Nat) (e tree : Expr) (text : String) : Prop where
  /-- Replacing templates from the outside to the inside ends with the tree, and with no other. -/
  lowers_iff : ∀ other, Lowers e other ↔ other = tree
  templateFree : TemplateFree tree
  /-- Writing, with each template replaced when it is come to, ends with the text, and with no
      other. -/
  writes_iff : ∀ other, Writes level e other ↔ other = text
  text_eq : text = expr .backquoted level tree
  /-- Both dialects put parentheses around the one if they do so around the other. -/
  isSum_eq : isSum .summed e = isSum .backquoted tree

/-- **Writing without templates** is writing an expression from which all templates were removed:
    it ends on every expression, with the text that the expression without templates has in the
    dialect that keeps them. -/
theorem writtenLowered_lower (level : Nat) (e : Expr) :
    WrittenLowered level e (lower e) (expr .summed level e) where
  lowers_iff _ := Script.lowers_iff
  templateFree := (lowers_lower e).templateFree
  writes_iff _ := writes_iff
  text_eq := (expr_lower e level).symm
  isSum_eq := (isSum_lower e).symm

/-- The outer template becomes a sum and stands in parentheses; the inner one becomes a text. -/
example : expr .summed 0 (.concat (.ident "host")
    (.template [.fill (.template []), .text "/", .fill (.ident "id")]))
      = "host + ('' + '' + '/' + id)" := by decide

end ClientGen.Layout
