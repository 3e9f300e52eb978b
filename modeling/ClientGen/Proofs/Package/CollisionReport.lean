import ClientGen.Proofs.Names.EchoPlaces
import ClientGen.Proofs.Package.Assembly
import ClientGen.Proofs.Text.FinalSigma

/-! # Reports of repeated ids and of colliding definitions

  What the checks of a whole document tell, and what escapes them.

  * **The report of ids is complete and exact** (`checkOperationIds_report`): every id that
    operations share is listed once, in the order in which the ids occur first; if there is none,
    the check succeeds.
  * **So is that of definitions** (`checkDefinitions_report`): every name that agrees in lower case
    with an earlier one is told once, in the order of the names and with the first name that it
    agrees with.
  * **Names that differ by case only** are not always reported. The check compares the lower-case
    forms of whole names, and a capital sigma at the end of a word has another form than a small
    one. This is the only exception (`caseVariants_rejected_iff`). -/

namespace ClientGen.Package

/-! ## Repeated ids -/

/-- **The report of ids** is a report of all ids that operations share. The check succeeds exactly
    if no two operations share one; otherwise it fails with that report and with nothing else. -/
theorem checkOperationIds_report (operations : List Operation) :
    (checkOperationIds (operations.map Operation.id) = .ok ()
        ↔ (operations.map Operation.id).Nodup)
      ∧ ∀ e, checkOperationIds (operations.map Operation.id) = .error e
          ↔ ¬ (operations.map Operation.id).Nodup
            ∧ ∃ report, Names.RepeatReport (operations.map Operation.id) report
              ∧ e = .repeatedIds report := by
  rw [checkOperationIds_eq]
  by_cases h : (operations.map Operation.id).Nodup
  · rw [if_pos h]
    refine ⟨iff_of_true rfl h, fun e => ⟨?_, fun hshared => absurd h hshared.1⟩⟩
    intro herror
    cases herror
  · rw [if_neg h]
    refine ⟨iff_of_false ?_ h, fun e => ?_⟩
    · intro hok
      cases hok
    · rw [and_iff_right h]
      constructor
      · intro herror
        exact ⟨_, Names.repeatReport_repeated _, (Except.error.inj herror).symm⟩
      · rintro ⟨report, hreport, rfl⟩
        -- There is one report only, so the other one is that of the check.
        rw [Names.repeatReport_iff.mp hreport]

/-- Ids that three, two and one operations have. -/
example : Names.repeated ["find", "add", "list", "add", "find", "find"] = ["find", "add"] := by
  decide

/-! ## Colliding definitions -/

theorem agreeInLower_refl (n : String) : agreeInLower n n = true := by simp [agreeInLower]

/-- **The report of collisions** is a report of all names that agree in lower case with an earlier
    one. The check succeeds exactly if the lower-case forms are distinct, so if there is nothing to
    report. Every name is the first with its lower-case form or told once. -/
theorem checkDefinitions_report (names : List String) :
    ∃ places report, Names.EchoReport agreeInLower names places report
      ∧ checkDefinitions names
          = { notices := report.map fun pair => .definitionCollision pair.1 pair.2,
              result := if (names.map Text.lower).Nodup then .ok ()
                else .error (.collidingDefinitions report) }
      ∧ ∀ j n, names[j]? = some n →
          Names.IsFirstPlace agreeInLower names n j ∧ places.count j = 0
            ∨ ¬ Names.IsFirstPlace agreeInLower names n j ∧ places.count j = 1 := by
  obtain ⟨places, hreport⟩ := Names.exists_echoReport agreeInLower names
  rw [← collisions_eq_echoes] at hreport
  refine ⟨places, collisions names, hreport, ?_, ?_⟩
  · rw [← result_checkDefinitions]
    rfl
  · intro j n hn
    exact hreport.first_or_told agreeInLower_refl hn

/-- Two groups of names whose members alternate. -/
example : collisions ["Pet", "Tag", "pet", "TAG", "PET"]
    = [("Pet", "pet"), ("Tag", "TAG"), ("Pet", "PET")] := by
  decide +kernel

/-! ## Names that differ by case -/

variable {names : List String} {a b : String}

/-- Two names of one lower-case form are rejected wherever they stand. -/
theorem rejected_of_lower_eq {i j : Nat} (hij : i ≠ j) (ha : names[i]? = some a)
    (hb : names[j]? = some b) (h : Text.lower a = Text.lower b) :
    ∃ report, (checkDefinitions names).result = .error (.collidingDefinitions report) := by
  refine ⟨collisions names, ?_⟩
  rw [result_checkDefinitions]
  -- Distinct lower-case forms would put both names in one place.
  refine if_neg fun hnodup => hij ?_
  have hi : (names.map Text.lower)[i]? = some (Text.lower a) := by
    rw [List.getElem?_map, ha, Option.map_some]
  have hj : (names.map Text.lower)[j]? = some (Text.lower a) := by
    rw [List.getElem?_map, hb, Option.map_some, h]
  have hlt := (List.getElem?_eq_some_iff.mp hi).1
  exact (List.getElem?_inj hlt hnodup).mp (hi.trans hj.symm)

/-- On their own, names are rejected only if they have one lower-case form. -/
theorem lower_eq_of_rejected {e : Defect} (h : (checkDefinitions [a, b]).result = .error e) :
    Text.lower a = Text.lower b := by
  rw [result_checkDefinitions] at h
  split at h
  · cases h
  · next hnodup => simpa using hnodup

/-- **Names that differ by case only**, which means that their characters agree in lower case one by
    one, are rejected in every list of names exactly if the same of their characters stand for
    capital sigmas at the ends of words. Names without capital sigmas are always rejected. -/
theorem caseVariants_rejected_iff (h : Text.lowerEach a = Text.lowerEach b) :
    ((∀ (names : List String) (i j : Nat), i ≠ j → names[i]? = some a → names[j]? = some b →
        ∃ report, (checkDefinitions names).result = .error (.collidingDefinitions report))
      ↔ Text.finalSigmas a = Text.finalSigmas b)
    ∧ ('Σ' ∉ a.toList → 'Σ' ∉ b.toList → Text.finalSigmas a = Text.finalSigmas b) := by
  refine ⟨?_, Text.finalSigmas_eq_of_not_mem h⟩
  rw [← Text.lower_eq_iff h]
  constructor
  · intro hrejected
    obtain ⟨report, hreport⟩ := hrejected [a, b] 0 1 (by decide) rfl rfl
    exact lower_eq_of_rejected hreport
  · intro hlower names i j hij ha hb
    exact rejected_of_lower_eq hij ha hb hlower

/-- One of the sigmas is capital in both names and ends them; the other one is small in the second
    name. -/
theorem caseVariants_rejected_twoSigmas :
    Text.lowerEach "ΣΑΣ" = Text.lowerEach "σαΣ"
      ∧ Text.finalSigmas "ΣΑΣ" = Text.finalSigmas "σαΣ"
      ∧ ∀ (names : List String) (i j : Nat), i ≠ j → names[i]? = some "ΣΑΣ" →
          names[j]? = some "σαΣ" →
          ∃ report, (checkDefinitions names).result = .error (.collidingDefinitions report) := by
  have hagree : Text.lowerEach "ΣΑΣ" = Text.lowerEach "σαΣ" := by decide +kernel
  have hfinal : Text.finalSigmas "ΣΑΣ" = Text.finalSigmas "σαΣ" := by decide +kernel
  exact ⟨hagree, hfinal, (caseVariants_rejected_iff hagree).1.mpr hfinal⟩

/-- The small sigma at the end of the second name is not final in lower case, the capital one at the
    end of the first name is. -/
theorem caseVariants_accepted :
    Text.lowerEach "ΑΣ" = Text.lowerEach "ασ"
      ∧ (checkDefinitions ["ΑΣ", "ασ"]).result = .ok () := by
  decide +kernel

end ClientGen.Package
