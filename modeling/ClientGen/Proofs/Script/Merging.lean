import ClientGen.Layout.Expr
import ClientGen.Proofs.Script.Names

/-! # Templates with merged texts

  A template may hold its text in any number of parts, and empty ones among them. That makes no
  difference to what it stands for, and none to how it is written between backquotes.

  * **`merged`** is an expression in which no template has an empty text or two texts side by side.
  * **`expr_merged`**: an expression and its merged form are written in the same way. -/

namespace ClientGen

namespace Expr

/-! ## Induction -/

theorem sizeOf_lt_of_fill_mem {parts : List TemplatePiece} {e : Expr} (h : .fill e ∈ parts) :
    sizeOf e < sizeOf parts := by
  have hpart := List.sizeOf_lt_of_mem h
  rw [TemplatePiece.fill.sizeOf_spec] at hpart
  omega

theorem sizeOf_lt_of_member {members : List (String × Expr)} {m : String × Expr}
    (h : m ∈ members) : sizeOf m.2 < sizeOf members := by
  have hmember := List.sizeOf_lt_of_mem h
  have hpair : sizeOf m = 1 + sizeOf m.1 + sizeOf m.2 := by
    cases m
    rfl
  omega

/-- Induction on expressions, with a hypothesis for each expression directly below. -/
theorem induct {motive : Expr → Prop} (ident : ∀ name, motive (.ident name))
    (text : ∀ value, motive (.text value))
    (template : ∀ parts, (∀ e, .fill e ∈ parts → motive e) → motive (.template parts))
    (concat : ∀ left right, motive left → motive right → motive (.concat left right))
    (call : ∀ callee arguments, (∀ e ∈ arguments, motive e) → motive (.call callee arguments))
    (construct : ∀ callee arguments, (∀ e ∈ arguments, motive e) →
      motive (.construct callee arguments))
    (object : ∀ members, (∀ m ∈ members, motive m.2) → motive (.object members)) (e : Expr) :
    motive e :=
  match e with
  | .ident name => ident name
  | .text value => text value
  | .template parts =>
    template parts fun e he =>
      have := sizeOf_lt_of_fill_mem he
      induct ident text template concat call construct object e
  | .concat left right =>
    concat left right (induct ident text template concat call construct object left)
      (induct ident text template concat call construct object right)
  | .call callee arguments =>
    call callee arguments fun e he =>
      have := List.sizeOf_lt_of_mem he
      induct ident text template concat call construct object e
  | .construct callee arguments =>
    construct callee arguments fun e he =>
      have := List.sizeOf_lt_of_mem he
      induct ident text template concat call construct object e
  | .object members =>
    object members fun m hm =>
      have := sizeOf_lt_of_member hm
      induct ident text template concat call construct object m.2
termination_by e

/-! ## Legal names -/

/-- Whether an expression uses identifiers only, as names of values and as callees. -/
def IsNamed (e : Expr) : Prop := ∀ n ∈ e.identifiers ++ e.callees, Text.isIdentifier n = true

instance (e : Expr) : Decidable e.IsNamed :=
  inferInstanceAs (Decidable (∀ n ∈ e.identifiers ++ e.callees, Text.isIdentifier n = true))

theorem isNamed_ident {name : String} :
    (Expr.ident name).IsNamed ↔ Text.isIdentifier name = true := by
  simp [IsNamed, identifiers, callees]

theorem isNamed_concat {left right : Expr} :
    (Expr.concat left right).IsNamed ↔ left.IsNamed ∧ right.IsNamed := by
  simp only [IsNamed, identifiers, callees, List.forall_mem_append]
  exact and_and_and_comm

theorem isNamed_template {parts : List TemplatePiece} :
    (Expr.template parts).IsNamed ↔ ∀ e, .fill e ∈ parts → e.IsNamed := by
  induction parts with
  | nil => simp [IsNamed, identifiers, callees, identifiersOfParts, calleesOfParts]
  | cons part rest ih =>
    cases part with
    | text s =>
      have hrest : (Expr.template (.text s :: rest)).IsNamed ↔ (Expr.template rest).IsNamed :=
        Iff.rfl
      rw [hrest, ih]
      simp
    | fill e =>
      -- Identifiers and callees are listed apart, but each part is asked about both at once.
      have hrest : (Expr.template (.fill e :: rest)).IsNamed
          ↔ e.IsNamed ∧ (Expr.template rest).IsNamed := by
        simp only [IsNamed, identifiers, callees, identifiersOfParts, calleesOfParts,
          List.forall_mem_append]
        exact and_and_and_comm
      rw [hrest, ih]
      simp [or_imp, forall_and]

theorem isNamed_call {callee : String} {es : List Expr} :
    (Expr.call callee es).IsNamed ↔ Text.isIdentifier callee = true ∧ ∀ e ∈ es, e.IsNamed := by
  induction es with
  | nil => simp [IsNamed, identifiers, callees, identifiersOfAll, calleesOfAll]
  | cons e rest ih =>
    have hrest : (Expr.call callee (e :: rest)).IsNamed
        ↔ e.IsNamed ∧ (Expr.call callee rest).IsNamed := by
      simp only [IsNamed, identifiers, callees, identifiersOfAll, calleesOfAll,
        List.forall_mem_append, List.forall_mem_cons]
      constructor
      · rintro ⟨⟨he, hrest⟩, hcallee, hcallees, hothers⟩
        exact ⟨⟨he, hcallees⟩, hrest, hcallee, hothers⟩
      · rintro ⟨⟨he, hcallees⟩, hrest, hcallee, hothers⟩
        exact ⟨⟨he, hrest⟩, hcallee, hcallees, hothers⟩
    rw [hrest, ih, List.forall_mem_cons, and_left_comm]

theorem isNamed_construct {callee : String} {es : List Expr} :
    (Expr.construct callee es).IsNamed
      ↔ Text.isIdentifier callee = true ∧ ∀ e ∈ es, e.IsNamed :=
  isNamed_call

theorem isNamed_object {members : List (String × Expr)} :
    (Expr.object members).IsNamed ↔ ∀ m ∈ members, m.2.IsNamed := by
  induction members with
  | nil => simp [IsNamed, identifiers, callees, identifiersOfMembers, calleesOfMembers]
  | cons m rest ih =>
    have hrest : (Expr.object (m :: rest)).IsNamed
        ↔ m.2.IsNamed ∧ (Expr.object rest).IsNamed := by
      simp only [IsNamed, identifiers, callees, identifiersOfMembers, calleesOfMembers,
        List.forall_mem_append]
      exact and_and_and_comm
    rw [hrest, ih, List.forall_mem_cons]

/-! ## Merging -/

/-- Parts of a template with a text in front. It becomes one with the text that they begin with, and
    an empty text is left out. -/
def joinText (s : String) : List TemplatePiece → List TemplatePiece
  | .text t :: rest => .text (s ++ t) :: rest
  | parts => if s = "" then parts else .text s :: parts

mutual

/-- An expression without empty texts in its templates, and without two texts side by side. -/
def merged : Expr → Expr
  | .ident name => .ident name
  | .text value => .text value
  | .template parts => .template (mergedParts parts)
  | .concat left right => .concat (merged left) (merged right)
  | .call callee arguments => .call callee (mergedAll arguments)
  | .construct callee arguments => .construct callee (mergedAll arguments)
  | .object members => .object (mergedMembers members)

def mergedAll : List Expr → List Expr
  | [] => []
  | e :: rest => merged e :: mergedAll rest

def mergedMembers : List (String × Expr) → List (String × Expr)
  | [] => []
  | (key, e) :: rest => (key, merged e) :: mergedMembers rest

/-- The parts of a template, the texts between two expressions merged into one. -/
def mergedParts : List TemplatePiece → List TemplatePiece
  | [] => []
  | .text s :: rest => joinText s (mergedParts rest)
  | .fill e :: rest => .fill (merged e) :: mergedParts rest

end

theorem mergedAll_eq (es : List Expr) : mergedAll es = es.map merged := by
  induction es with
  | nil => rfl
  | cons e rest ih => rw [mergedAll, ih, List.map_cons]

theorem mergedMembers_eq (members : List (String × Expr)) :
    mergedMembers members = members.map fun m => (m.1, m.2.merged) := by
  induction members with
  | nil => rfl
  | cons m rest ih => rw [mergedMembers, ih, List.map_cons]

theorem joinText_empty (parts : List TemplatePiece) : joinText "" parts = parts := by
  cases parts with
  | nil => rfl
  | cons part rest => cases part <;> simp [joinText]

/-- Texts in front are merged one after the other or at once. -/
theorem joinText_append (s t : String) (parts : List TemplatePiece) :
    joinText (s ++ t) parts = joinText s (joinText t parts) := by
  -- In front of anything but a text, the two texts become one only if there are two of them.
  have hfront : ∀ rest, (∀ u later, rest ≠ .text u :: later) →
      joinText (s ++ t) rest = joinText s (joinText t rest) := by
    intro rest hrest
    have hjoin : ∀ u, joinText u rest = if u = "" then rest else .text u :: rest := by
      intro u
      cases rest with
      | nil => rfl
      | cons part later =>
        cases part with
        | text v => exact absurd rfl (hrest v later)
        | fill e => rfl
    by_cases ht : t = ""
    · subst ht
      rw [String.append_empty, hjoin "", if_pos rfl]
    · have hboth : s ++ t ≠ "" := by
        intro hempty
        have hlength := congrArg String.length hempty
        have hpos : t.length ≠ 0 := by simpa [String.length_eq_zero_iff] using ht
        rw [String.length_append, String.length_empty] at hlength
        omega
      rw [hjoin, hjoin, if_neg ht, if_neg hboth]
      rfl
  cases parts with
  | nil => exact hfront [] (by simp)
  | cons part rest =>
    cases part with
    | text u => simp only [joinText, String.append_assoc]
    | fill e => exact hfront _ (by simp)

/-- Whether no part is an empty text and no two texts stand side by side. -/
def areMerged : List TemplatePiece → Bool
  | [] => true
  | .text _ :: .text _ :: _ => false
  | .text s :: rest => s ≠ "" && areMerged rest
  | .fill _ :: rest => areMerged rest

theorem areMerged_joinText (s : String) {parts : List TemplatePiece}
    (h : areMerged parts = true) : areMerged (joinText s parts) = true := by
  by_cases hs : s = ""
  · rwa [hs, joinText_empty]
  cases parts with
  | nil => simp [joinText, areMerged, hs]
  | cons part rest =>
    cases part with
    | fill e => simpa [joinText, areMerged, hs] using h
    | text t =>
      -- The texts become one; what follows them is no text.
      cases rest with
      | nil => simp [joinText, areMerged, String.append_eq_empty_iff, hs]
      | cons next later =>
        cases next with
        | text u => cases h
        | fill e =>
          simp only [areMerged, Bool.and_eq_true] at h
          simp [joinText, areMerged, String.append_eq_empty_iff, hs, h.2]

/-- A merged template has no empty texts, and no two texts side by side. -/
theorem areMerged_mergedParts (parts : List TemplatePiece) :
    areMerged (mergedParts parts) = true := by
  induction parts with
  | nil => rfl
  | cons part rest ih =>
    cases part with
    | text s => exact areMerged_joinText s ih
    | fill e => exact ih

/-! ## Merging leaves the text as it is -/

open Layout (expr templateParts templateText)

theorem templateText_append (s t : String) :
    templateText (s ++ t) = templateText s ++ templateText t := by
  apply String.toList_inj.mp
  simp [templateText]

theorem templateParts_joinText (level : Nat) (s : String) (parts : List TemplatePiece) :
    templateParts .backquoted level (joinText s parts)
      = templateText s ++ templateParts .backquoted level parts := by
  have hempty : templateText "" = "" := rfl
  -- An empty text is left out, and it has no characters to be written.
  have hfront : ∀ rest,
      templateParts .backquoted level (if s = "" then rest else .text s :: rest)
        = templateText s ++ templateParts .backquoted level rest := by
    intro rest
    by_cases hs : s = ""
    · rw [if_pos hs, hs, hempty, String.empty_append]
    · rw [if_neg hs, templateParts]
  cases parts with
  | nil => exact hfront []
  | cons part rest =>
    cases part with
    | text t =>
      rw [joinText, templateParts, templateParts, templateText_append, String.append_assoc]
    | fill e => exact hfront _

theorem isSum_merged (e : Expr) :
    Layout.isSum .backquoted e.merged = Layout.isSum .backquoted e := by
  cases e <;> rfl

theorem exprs_merged {es : List Expr} {level : Nat}
    (h : ∀ e ∈ es, expr .backquoted level e.merged = expr .backquoted level e) :
    Layout.exprs .backquoted level (mergedAll es) = Layout.exprs .backquoted level es := by
  rw [mergedAll_eq, Layout.exprs_eq, Layout.exprs_eq, List.map_map]
  exact List.map_congr_left h

theorem memberTexts_merged {members : List (String × Expr)} {level : Nat}
    (h : ∀ m ∈ members, expr .backquoted level m.2.merged = expr .backquoted level m.2) :
    Layout.memberTexts .backquoted level (mergedMembers members)
      = Layout.memberTexts .backquoted level members := by
  rw [mergedMembers_eq, Layout.memberTexts_eq, Layout.memberTexts_eq, List.map_map]
  apply List.map_congr_left
  intro m hm
  rw [Function.comp_apply, h m hm]

theorem templateParts_merged {parts : List TemplatePiece} {level : Nat}
    (h : ∀ e, .fill e ∈ parts → expr .backquoted level e.merged = expr .backquoted level e) :
    templateParts .backquoted level (mergedParts parts)
      = templateParts .backquoted level parts := by
  induction parts with
  | nil => rfl
  | cons part rest ih =>
    -- The parts behind the first one are merged already.
    have hrest := ih fun e he => h e (List.mem_cons_of_mem _ he)
    cases part with
    | text s => rw [mergedParts, templateParts_joinText, templateParts, hrest]
    | fill e =>
      have he := h e List.mem_cons_self
      rw [mergedParts, templateParts, templateParts, he, hrest]

/-- An expression and its merged form are written in the same way. -/
theorem expr_merged (e : Expr) :
    ∀ level, expr .backquoted level e.merged = expr .backquoted level e := by
  -- For all levels at once, because the members of an object are one level further in.
  induction e using induct with
  | ident name => exact fun _ => rfl
  | text value => exact fun _ => rfl
  | template parts ih =>
    intro level
    rw [merged, expr, expr, templateParts_merged fun e he => ih e he level]
  | concat left right hleft hright =>
    intro level
    rw [merged, expr, expr, hleft, hright, isSum_merged]
  | call callee arguments ih =>
    intro level
    rw [merged, expr, expr, exprs_merged fun e he => ih e he level]
  | construct callee arguments ih =>
    intro level
    rw [merged, expr, expr, exprs_merged fun e he => ih e he level]
  | object members ih =>
    intro level
    rw [merged, expr, expr, memberTexts_merged fun m hm => ih m hm (level + 1)]

end Expr

end ClientGen
