import Mathlib.Data.List.Nodup
import ClientGen.Package
import ClientGen.Proofs.Names.Echoes

/-! # Collisions of definition names

  The check of definition names goes through them once and keeps the first name of each lower-case
  form. What it finds are the echoes in lower case (`collisions_eq_echoes`): each name that agrees
  with an earlier one, behind the first name that it agrees with. It finds nothing exactly if all
  lower-case forms differ. -/

namespace ClientGen.Package

def agreeInLower (e n : String) : Bool := Text.lower e = Text.lower n

/-- What is found behind names that were met before. The forms in `first` lead to the first names
    among these that have them. -/
theorem collisionsAfter_eq_echoesAfter {first : List (String × String)} {before : List String}
    (hfirst : ∀ form, OrderedMap.find? form first = before.find? fun e => Text.lower e = form)
    (names : List String) :
    collisionsAfter first names = Names.echoesAfter agreeInLower before names := by
  induction names generalizing first before with
  | nil => rfl
  | cons name rest ih =>
    rw [collisionsAfter, Names.echoesAfter]
    have hname : (before.find? fun e => agreeInLower e name)
        = OrderedMap.find? (Text.lower name) first := (hfirst _).symm
    rw [hname]
    cases hfind : OrderedMap.find? (Text.lower name) first with
    | some existing =>
      -- The form is kept already, so the name at the end is not the first one with its form.
      have hnext : ∀ form, OrderedMap.find? form first
          = (before ++ [name]).find? fun e => Text.lower e = form := by
        intro form
        rw [List.find?_append, ← hfirst form]
        by_cases hform : Text.lower name = form
        · rw [← hform, hfind]
          rfl
        · simp [hform]
      rw [ih hnext]
      rfl
    | none =>
      have hnext : ∀ form, OrderedMap.find? form ((Text.lower name, name) :: first)
          = (before ++ [name]).find? fun e => Text.lower e = form := by
        intro form
        rw [List.find?_append, ← hfirst form, OrderedMap.find?]
        by_cases hform : Text.lower name = form
        · rw [if_pos hform, ← hform, hfind]
          simp
        · simp [hform]
      rw [ih hnext]
      rfl

/-- The collisions are the echoes in lower case. -/
theorem collisions_eq_echoes (names : List String) :
    collisions names = Names.echoes agreeInLower names :=
  collisionsAfter_eq_echoesAfter (fun _ => rfl) names

theorem collisions_eq_nil_iff {names : List String} :
    collisions names = [] ↔ (names.map Text.lower).Nodup := by
  rw [collisions_eq_echoes, Names.echoes_eq_nil_iff, List.Nodup, List.pairwise_map]
  simp only [agreeInLower, decide_eq_false_iff_not]

end ClientGen.Package
