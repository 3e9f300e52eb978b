import ClientGen.Proofs.Script.Merging
import ClientGen.Script.Lowering

/-! # Expressions without templates

  `lower` makes an expression without templates in one walk. What it makes is said here by rules.

  * **`Lowers`**: a template is first replaced by the sum of its parts, and then what is in the sum
    is treated in the same way. Every other expression keeps its form. The rules always end, and
    with one result, which is what `lower` makes (`lowers_iff`).
  * **`TemplateFree`**: no template is left anywhere in such a result.

  The sum of a template begins with a text, whatever its parts are (`exists_summands`). -/

namespace ClientGen.Script

/-! ## Sums -/

variable {motive : Expr → Prop}

/-- What holds of the summands and is kept by a plus sign holds of their sum. -/
theorem sum_induct (text : ∀ s, motive (.text s))
    (concat : ∀ left right, motive left → motive right → motive (.concat left right))
    {es : List Expr} (h : ∀ e ∈ es, motive e) : motive (sum es) := by
  cases es with
  | nil => exact text ""
  | cons first rest =>
    rw [List.forall_mem_cons] at h
    exact List.foldlRecOn rest .concat h.1 fun left hleft e he => concat left e hleft (h.2 e he)

/-! ## Summands -/

theorem filterMap_summand?_fill (e : Expr) (rest : List TemplatePiece) :
    (.fill e :: rest).filterMap summand? = e :: rest.filterMap summand? :=
  List.filterMap_cons_some rfl

theorem filterMap_summand?_empty (rest : List TemplatePiece) :
    (.text "" :: rest).filterMap summand? = rest.filterMap summand? :=
  List.filterMap_cons_none rfl

theorem filterMap_summand?_text {s : String} (h : s ≠ "") (rest : List TemplatePiece) :
    (.text s :: rest).filterMap summand? = .text s :: rest.filterMap summand? :=
  List.filterMap_cons_some (if_neg h)

/-- A summand of a template is a text, or a part that is filled in. -/
theorem mem_summands {parts : List TemplatePiece} {e : Expr} (h : e ∈ summands parts) :
    (∃ s, e = .text s) ∨ .fill e ∈ parts := by
  rcases List.mem_append.mp h with h | h
  · -- The text that is put in front is no part of the template.
    split at h
    · cases h
    · exact Or.inl ⟨"", List.mem_singleton.mp h⟩
  · obtain ⟨part, hpart, hsummand⟩ := List.mem_filterMap.mp h
    cases part with
    | fill other =>
      obtain rfl : other = e := Option.some.inj hsummand
      exact Or.inr hpart
    | text s =>
      rw [summand?] at hsummand
      split at hsummand
      · cases hsummand
      · exact Or.inl ⟨s, (Option.some.inj hsummand).symm⟩

/-- What holds of texts and of the parts that are filled in holds of the sum of a template. -/
theorem sumOfTemplate_induct (text : ∀ s, motive (.text s))
    (concat : ∀ left right, motive left → motive right → motive (.concat left right))
    {parts : List TemplatePiece} (fill : ∀ e, .fill e ∈ parts → motive e) :
    motive (sumOfTemplate parts) := by
  apply sum_induct text concat
  intro e he
  rcases mem_summands he with ⟨s, rfl⟩ | he
  · exact text s
  · exact fill e he

/-- The first summand of a template is a text. -/
theorem exists_summands (parts : List TemplatePiece) :
    ∃ s rest, summands parts = .text s :: rest := by
  cases hbegins : beginsWithText parts with
  | false => exact ⟨"", parts.filterMap summand?, by simp [summands, hbegins]⟩
  | true =>
    -- The first summand exists and is a text, as the test says.
    have hhead : ((parts.filterMap summand?).head?.map isText).getD false = true := hbegins
    cases hparts : parts.filterMap summand? with
    | nil => simp [hparts] at hhead
    | cons first rest =>
      cases first with
      | text s => exact ⟨s, rest, by simp [summands, hbegins, hparts]⟩
      | _ => simp [hparts, isText] at hhead

/-! ## One walk -/

theorem lowerAll_eq (es : List Expr) : lowerAll es = es.map lower := by
  induction es with
  | nil => rfl
  | cons e rest ih => rw [lowerAll, ih, List.map_cons]

theorem lowerMembers_eq (members : List (String × Expr)) :
    lowerMembers members = members.map fun m => (m.1, lower m.2) := by
  induction members with
  | nil => rfl
  | cons m rest ih => rw [lowerMembers, ih, List.map_cons]

theorem lowerSummands_eq (parts : List TemplatePiece) :
    lowerSummands parts = (parts.filterMap summand?).map lower := by
  induction parts with
  | nil => rfl
  | cons part rest ih =>
    cases part with
    | fill e => rw [lowerSummands, ih, filterMap_summand?_fill, List.map_cons]
    | text s =>
      rw [lowerSummands]
      -- Both leave out empty texts.
      by_cases hs : s = ""
      · rw [if_pos hs, ih, hs, filterMap_summand?_empty]
      · rw [if_neg hs, ih, filterMap_summand?_text hs, List.map_cons, lower]

/-- A template becomes the sum of its summands, each without templates. -/
theorem lower_template (parts : List TemplatePiece) :
    lower (.template parts) = sum ((summands parts).map lower) := by
  rw [lower, lowerSummands_eq, summands, List.map_append]
  split <;> rfl

theorem lower_sum (es : List Expr) : lower (sum es) = sum (es.map lower) := by
  cases es with
  | nil => rfl
  | cons first rest =>
    rw [List.map_cons, sum, sum, List.foldl_map]
    exact (List.foldl_hom lower fun _ _ => rfl).symm

/-- Nothing is lost if a template is replaced by its sum before the walk. -/
theorem lower_sumOfTemplate (parts : List TemplatePiece) :
    lower (sumOfTemplate parts) = lower (.template parts) := by
  rw [sumOfTemplate, lower_sum, lower_template]

/-! ## Rules -/

/-- `Lowers e tree` says that replacing the templates in `e`, from the outside to the inside, ends
    with `tree`. -/
inductive Lowers : Expr → Expr → Prop where
  | ident (name : String) : Lowers (.ident name) (.ident name)
  | text (value : String) : Lowers (.text value) (.text value)
  /-- A template is replaced by the sum of its parts, which is treated next. -/
  | template {parts : List TemplatePiece} {tree : Expr} :
      Lowers (sumOfTemplate parts) tree → Lowers (.template parts) tree
  /-- The operands of a sum are treated one by one. -/
  | concat {left right leftTree rightTree : Expr} :
      Lowers left leftTree → Lowers right rightTree →
      Lowers (.concat left right) (.concat leftTree rightTree)
  | call {callee : String} {arguments : List Expr} {tree : Expr → Expr} :
      (∀ e ∈ arguments, Lowers e (tree e)) →
      Lowers (.call callee arguments) (.call callee (arguments.map tree))
  | construct {callee : String} {arguments : List Expr} {tree : Expr → Expr} :
      (∀ e ∈ arguments, Lowers e (tree e)) →
      Lowers (.construct callee arguments) (.construct callee (arguments.map tree))
  | object {members : List (String × Expr)} {tree : Expr → Expr} :
      (∀ m ∈ members, Lowers m.2 (tree m.2)) →
      Lowers (.object members) (.object (members.map fun m => (m.1, tree m.2)))

inductive TemplateFree : Expr → Prop where
  | ident (name : String) : TemplateFree (.ident name)
  | text (value : String) : TemplateFree (.text value)
  /-- No operand has a template in it. -/
  | concat {left right : Expr} :
      TemplateFree left → TemplateFree right → TemplateFree (.concat left right)
  | call {callee : String} {arguments : List Expr} :
      (∀ e ∈ arguments, TemplateFree e) → TemplateFree (.call callee arguments)
  | construct {callee : String} {arguments : List Expr} :
      (∀ e ∈ arguments, TemplateFree e) → TemplateFree (.construct callee arguments)
  | object {members : List (String × Expr)} :
      (∀ m ∈ members, TemplateFree m.2) → TemplateFree (.object members)

theorem Lowers.eq_lower {e tree : Expr} (h : Lowers e tree) : tree = lower e := by
  induction h with
  | ident name => rfl
  | text value => rfl
  -- The tree is that of the sum, and the sum is lowered as its template is.
  | template _ ih => rw [ih, lower_sumOfTemplate]
  | concat _ _ hleft hright => rw [hleft, hright, lower]
  | call _ ih => rw [lower, lowerAll_eq, List.map_congr_left ih]
  | construct _ ih => rw [lower, lowerAll_eq, List.map_congr_left ih]
  | object _ ih =>
    rw [lower, lowerMembers_eq]
    congr 1
    apply List.map_congr_left
    intro m hm
    rw [ih m hm]

/-- The rules end on every expression. -/
theorem lowers_lower (e : Expr) : Lowers e (lower e) := by
  induction e using Expr.induct with
  | ident name => exact .ident name
  | text value => exact .text value
  | template parts ih =>
    -- What is filled into a template is in its sum as it is.
    rw [← lower_sumOfTemplate]
    exact .template (sumOfTemplate_induct (motive := fun e => Lowers e (lower e)) .text
      (fun _ _ hleft hright => .concat hleft hright) ih)
  | concat left right hleft hright => exact .concat hleft hright
  | call callee arguments ih =>
    rw [lower, lowerAll_eq]
    exact .call ih
  | construct callee arguments ih =>
    rw [lower, lowerAll_eq]
    exact .construct ih
  | object members ih =>
    rw [lower, lowerMembers_eq]
    exact .object ih

/-- The rules end with what `lower` makes. -/
theorem lowers_iff {e tree : Expr} : Lowers e tree ↔ tree = lower e := by
  constructor
  · exact Lowers.eq_lower
  · rintro rfl
    exact lowers_lower e

/-- The rules leave no template. -/
theorem Lowers.templateFree {e tree : Expr} (h : Lowers e tree) : TemplateFree tree := by
  induction h with
  | ident name => exact .ident name
  | text value => exact .text value
  | template _ ih => exact ih
  | concat _ _ hleft hright => exact .concat hleft hright
  | call _ ih => exact .call (List.forall_mem_map.mpr ih)
  | construct _ ih => exact .construct (List.forall_mem_map.mpr ih)
  | object _ ih => exact .object (List.forall_mem_map.mpr ih)

end ClientGen.Script
