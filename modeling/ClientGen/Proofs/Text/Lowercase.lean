import ClientGen.Text.Lowercase

/-! # Lower case in context

  The lower-case form of a text depends on what stands around it, because a capital sigma looks for
  cased characters on both sides. All that counts of the surroundings is whether the nearest
  character that is not skipped is cased (`lowerBetween_congr`).

  A file name is such a text: a slash or nothing stands before it and an extension behind it. So a
  sigma at the end of the name is not at the end of a word there, and the name has one lower-case
  form in all its files (`lowerStem`), which need not be the form that it has on its own. -/

namespace ClientGen.Text

/-! ## What counts of the surroundings -/

theorem nextIsCased_cons (c : Char) (cs : List Char) :
    nextIsCased (c :: cs)
      = if memRanges skippedRanges c then nextIsCased cs else memRanges casedRanges c := by
  unfold nextIsCased
  rw [List.dropWhile_cons]
  by_cases h : memRanges skippedRanges c = true
  · rw [if_pos h, if_pos h]
  · rw [if_neg h, if_neg h]

/-- Characters in front hide what follows, unless all of them are skipped. -/
theorem nextIsCased_append_congr {cs ds : List Char} (h : nextIsCased cs = nextIsCased ds)
    (front : List Char) : nextIsCased (front ++ cs) = nextIsCased (front ++ ds) := by
  induction front with
  | nil => exact h
  | cons c front ih =>
    rw [List.cons_append, List.cons_append, nextIsCased_cons, nextIsCased_cons, ih]

/-! ## Text between other texts -/

/-- The lower-case form of characters that stand between `before`, which is held nearest first, and
    `after`. -/
def lowerBetween (before after : List Char) : List Char → List Char
  | [] => []
  | c :: rest =>
    (if c = 'Σ' then [if endsWord before (rest ++ after) then 'ς' else 'σ'] else lowerChar c)
      ++ lowerBetween (c :: before) after rest

theorem lowerAfter_append (before cs ds : List Char) :
    lowerAfter before (cs ++ ds)
      = lowerBetween before ds cs ++ lowerAfter (cs.reverse ++ before) ds := by
  induction cs generalizing before with
  | nil => rfl
  | cons c rest ih =>
    have hbefore : (c :: rest).reverse ++ before = rest.reverse ++ c :: before := by simp
    rw [List.cons_append, lowerAfter, ih, lowerBetween, List.append_assoc, hbefore]

theorem lowerBetween_congr {before before' after after' : List Char}
    (hbefore : nextIsCased before = nextIsCased before')
    (hafter : nextIsCased after = nextIsCased after') (cs : List Char) :
    lowerBetween before after cs = lowerBetween before' after' cs := by
  -- What is passed over comes before the rest, so the texts in front are generalised.
  induction cs generalizing before before' with
  | nil => rfl
  | cons c rest ih =>
    have hnext : nextIsCased (c :: before) = nextIsCased (c :: before') :=
      nextIsCased_append_congr hbefore [c]
    have hword : endsWord before (rest ++ after) = endsWord before' (rest ++ after') := by
      rw [endsWord, endsWord, hbefore, nextIsCased_append_congr hafter rest]
    rw [lowerBetween, lowerBetween, ih hnext, hword]

/-- A text without a capital sigma has one lower-case form everywhere. -/
theorem lowerBetween_of_not_mem {before after cs : List Char} (h : 'Σ' ∉ cs) :
    lowerBetween before after cs = cs.flatMap lowerChar := by
  induction cs generalizing before with
  | nil => rfl
  | cons c rest ih =>
    rw [List.mem_cons, not_or] at h
    rw [lowerBetween, if_neg (Ne.symm h.1), ih h.2, List.flatMap_cons]

/-- Whether a character stays as it is in lower case, wherever it stands. -/
def isLowered (c : Char) : Bool := c ≠ 'Σ' && lowerChar c = [c]

theorem lowerBetween_of_isLowered {before after cs : List Char} (h : cs.all isLowered = true) :
    lowerBetween before after cs = cs := by
  -- Without a capital sigma the surroundings do not count.
  have hsigma : 'Σ' ∉ cs := by
    intro hmem
    have hlowered := List.all_eq_true.mp h _ hmem
    simp [isLowered] at hlowered
  have hself : cs.map lowerChar = cs.map fun c => [c] := by
    apply List.map_congr_left
    intro c hc
    have hlowered := List.all_eq_true.mp h c hc
    simp only [isLowered, Bool.and_eq_true, decide_eq_true_eq] at hlowered
    exact hlowered.2
  rw [lowerBetween_of_not_mem hsigma, List.flatMap_def, hself, ← List.flatMap_def,
    List.flatMap_singleton']

/-- Behind the last character nothing counts. -/
theorem lowerAfter_eq_lowerBetween (before cs : List Char) :
    lowerAfter before cs = lowerBetween before [] cs := by
  have happend := lowerAfter_append before cs []
  rwa [List.append_nil, lowerAfter, List.append_nil] at happend

/-! ## File names -/

/-- The lower-case form of the name of a file, its extension apart. -/
def lowerStem (name : String) : String :=
  String.ofList (lowerBetween [] ".js".toList name.toList)

/-- A name in a directory, with an extension behind it. The texts around the name are in lower case,
    and neither is part of a word with the name but the extension. -/
theorem lower_file {directory extension : String} (name : String)
    (hdirectory : directory.toList.all isLowered = true)
    (hextension : extension.toList.all isLowered = true)
    (hbefore : nextIsCased directory.toList.reverse = false)
    (hafter : nextIsCased extension.toList = true) :
    lower (directory ++ name ++ extension) = directory ++ lowerStem name ++ extension := by
  -- A slash is no cased character and `j` is one, so the surroundings count as those in
  -- `lowerStem`.
  have hstem : lowerBetween (directory.toList.reverse ++ []) extension.toList name.toList
      = lowerBetween [] ".js".toList name.toList := by
    apply lowerBetween_congr
    · rw [List.append_nil, hbefore]
      rfl
    · rw [hafter]
      decide +kernel
  apply String.toList_inj.mp
  rw [lower, String.toList_ofList, String.toList_append, String.toList_append, List.append_assoc,
    lowerAfter_append, lowerAfter_append, lowerAfter_eq_lowerBetween, hstem,
    lowerBetween_of_isLowered hdirectory, lowerBetween_of_isLowered hextension]
  simp [lowerStem]

/-- Names without a capital sigma have the same form with and without an extension. -/
theorem lowerStem_of_not_mem {name : String} (h : 'Σ' ∉ name.toList) :
    lowerStem name = lower name := by
  rw [lowerStem, lower, lowerAfter_eq_lowerBetween, lowerBetween_of_not_mem h,
    lowerBetween_of_not_mem h]

end ClientGen.Text
