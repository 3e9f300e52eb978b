import Mathlib.Data.List.Forall2
import ClientGen.Text.Lowercase

/-! # Final sigmas

  Where the lower-case form of a text differs from the lower-case forms of its characters: at the
  capital sigmas that end words, and nowhere else (`lower_eq`). So two texts that agree character by
  character agree as a whole exactly if such sigmas stand at the same places in both
  (`lower_eq_iff`). A small sigma at one of these places stays as it is, which keeps the texts
  apart. -/

namespace ClientGen.Text

/-! ## Marks -/

/-- For each character in the lower-case form of the characters that follow `before`, whether it
    stands for a capital sigma that ends a word. -/
def finalSigmasAfter (before : List Char) : List Char → List Bool
  | [] => []
  | c :: rest =>
    (if c = 'Σ' then [endsWord before rest] else (lowerChar c).map fun _ => false)
      ++ finalSigmasAfter (c :: before) rest

/-- For each character in the lower-case form of a text, whether it stands for a capital sigma that
    ends a word. -/
def finalSigmas (s : String) : List Bool := finalSigmasAfter [] s.toList

def finalForm (c : Char) (final : Bool) : Char := if final then 'ς' else c

/-- Marks that fit characters: one for each, and only sigmas are marked. -/
def Fits (cs : List Char) (finals : List Bool) : Prop :=
  List.Forall₂ (fun c final => final = true → c = 'σ') cs finals

theorem lowerChar_sigma : lowerChar 'Σ' = ['σ'] := by decide +kernel

theorem fits_unmarked (cs : List Char) : Fits cs (cs.map fun _ => false) := by
  induction cs with
  | nil => exact .nil
  | cons c rest ih => exact .cons (fun h => nomatch h) ih

theorem fits_finalSigmasAfter (before cs : List Char) :
    Fits (cs.flatMap lowerChar) (finalSigmasAfter before cs) := by
  induction cs generalizing before with
  | nil => exact .nil
  | cons c rest ih =>
    rw [List.flatMap_cons, finalSigmasAfter]
    refine List.rel_append ?_ (ih (c :: before))
    by_cases hc : c = 'Σ'
    · -- Whether or not the sigma ends a word, its own form is the small one.
      rw [if_pos hc, hc, lowerChar_sigma]
      exact .cons (fun _ => rfl) .nil
    · rw [if_neg hc]
      exact fits_unmarked (lowerChar c)

/-! ## The lower-case form of a text -/

theorem zipWith_unmarked (cs : List Char) :
    List.zipWith finalForm cs (cs.map fun _ => false) = cs := by
  induction cs with
  | nil => rfl
  | cons c rest ih =>
    rw [List.map_cons, List.zipWith_cons_cons, ih]
    rfl

theorem lowerAfter_eq_zipWith (before cs : List Char) :
    lowerAfter before cs
      = List.zipWith finalForm (cs.flatMap lowerChar) (finalSigmasAfter before cs) := by
  induction cs generalizing before with
  | nil => rfl
  | cons c rest ih =>
    rw [lowerAfter, finalSigmasAfter, List.flatMap_cons, ih]
    by_cases hc : c = 'Σ'
    · rw [if_pos hc, if_pos hc, hc, lowerChar_sigma]
      rfl
    · rw [if_neg hc, if_neg hc, List.zipWith_append (by simp), zipWith_unmarked]

/-- **The lower-case form of a text** is that of its characters, with the final form for every
    capital sigma that ends a word. -/
theorem lower_eq (s : String) :
    lower s
      = String.ofList (List.zipWith finalForm (s.toList.flatMap lowerChar) (finalSigmas s)) := by
  rw [lower, lowerAfter_eq_zipWith]
  rfl

/-! ## Texts that agree character by character -/

/-- No character is the final form already where a mark could make it so: marked characters are
    small sigmas. -/
theorem finalForm_inj {c : Char} {final final' : Bool} (h : final = true → c = 'σ')
    (h' : final' = true → c = 'σ') (heq : finalForm c final = finalForm c final') :
    final = final' := by
  cases final with
  | false =>
    cases final' with
    | false => rfl
    | true =>
      -- The two forms of a small sigma differ.
      obtain rfl := h' rfl
      exact absurd heq (by decide)
  | true =>
    cases final' with
    | false =>
      obtain rfl := h rfl
      exact absurd heq (by decide)
    | true => rfl

/-- The final form shows, so marks that fit the same characters can be read off. -/
theorem Fits.zipWith_inj {cs : List Char} {finals finals' : List Bool} (h : Fits cs finals)
    (h' : Fits cs finals')
    (heq : List.zipWith finalForm cs finals = List.zipWith finalForm cs finals') :
    finals = finals' := by
  induction h generalizing finals' with
  | nil =>
    cases h'
    rfl
  | cons hc _ ih =>
    cases h' with
    | cons hc' hrest' =>
      rw [List.zipWith_cons_cons, List.zipWith_cons_cons, List.cons.injEq] at heq
      rw [finalForm_inj hc hc' heq.1, ih hrest' heq.2]

variable {a b : String}

theorem flatMap_lowerChar_eq (h : lowerEach a = lowerEach b) :
    a.toList.flatMap lowerChar = b.toList.flatMap lowerChar :=
  String.ofList_inj.mp h

/-- **Texts that agree character by character** in lower case agree as a whole exactly if the same
    of their characters stand for capital sigmas at the ends of words. -/
theorem lower_eq_iff (h : lowerEach a = lowerEach b) :
    lower a = lower b ↔ finalSigmas a = finalSigmas b := by
  have hchars := flatMap_lowerChar_eq h
  rw [lower_eq, lower_eq, hchars, String.ofList_inj]
  constructor
  · intro heq
    -- The marks of either text fit the characters that both share.
    have hfits : Fits (b.toList.flatMap lowerChar) (finalSigmas a) := by
      rw [← hchars]
      exact fits_finalSigmasAfter [] a.toList
    exact hfits.zipWith_inj (fits_finalSigmasAfter [] b.toList) heq
  · intro heq
    rw [heq]

theorem finalSigmasAfter_of_not_mem {before cs : List Char} (h : 'Σ' ∉ cs) :
    finalSigmasAfter before cs = (cs.flatMap lowerChar).map fun _ => false := by
  induction cs generalizing before with
  | nil => rfl
  | cons c rest ih =>
    rw [List.mem_cons, not_or] at h
    rw [finalSigmasAfter, if_neg (Ne.symm h.1), ih h.2, List.flatMap_cons, List.map_append]

/-- Without capital sigmas there is nothing that could keep them apart. -/
theorem finalSigmas_eq_of_not_mem (h : lowerEach a = lowerEach b) (ha : 'Σ' ∉ a.toList)
    (hb : 'Σ' ∉ b.toList) : finalSigmas a = finalSigmas b := by
  rw [finalSigmas, finalSigmas, finalSigmasAfter_of_not_mem ha, finalSigmasAfter_of_not_mem hb,
    flatMap_lowerChar_eq h]

end ClientGen.Text
