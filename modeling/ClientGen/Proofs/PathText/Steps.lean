import ClientGen.PathText

/-! # The steps of a path

  A path is followed step by step: parts that lead nowhere are passed over, two dots lead upwards,
  and every other part leads inwards. Two paths with the same steps are the same path, however many
  slashes and lone dots their texts have.

  * **`steps`** are the parts that count.
  * **`place?`** is where the steps lead to, as seen from the directory in which they begin, if they
    do not lead out of it. Nothing on a disk is looked at.

  The path of a file in a directory is put together from the directory, a name and an extension. The
  name may have slashes itself; then it consists of the folders before the last slash and a stem
  behind it, to which the extension belongs (`steps_file`). -/

namespace ClientGen.PathText

/-! ## Parts of joined texts -/

theorem cutAtSlashes_cons_of_ne {c : Char} (h : c ≠ '/') (cs : List Char) :
    cutAtSlashes (c :: cs) = (c :: (cutAtSlashes cs).1, (cutAtSlashes cs).2) :=
  if_neg h

theorem cutAtSlashes_slash (cs : List Char) :
    cutAtSlashes ('/' :: cs) = ([], (cutAtSlashes cs).1 :: (cutAtSlashes cs).2) := rfl

theorem cutAtSlashes_append_slash {ds : List Char} (h : '/' ∉ ds) (cs : List Char) :
    cutAtSlashes (ds ++ '/' :: cs) = (ds, (cutAtSlashes cs).1 :: (cutAtSlashes cs).2) := by
  induction ds with
  | nil => exact cutAtSlashes_slash cs
  | cons d ds ih =>
    rw [List.mem_cons, not_or] at h
    rw [List.cons_append, cutAtSlashes_cons_of_ne (Ne.symm h.1), ih h.2]

theorem cutAtSlashes_of_not_mem {cs : List Char} (h : '/' ∉ cs) : cutAtSlashes cs = (cs, []) := by
  induction cs with
  | nil => rfl
  | cons c cs ih =>
    rw [List.mem_cons, not_or] at h
    rw [cutAtSlashes_cons_of_ne (Ne.symm h.1), ih h.2]

theorem parts_eq (path : String) :
    parts path
      = ((cutAtSlashes path.toList).1 :: (cutAtSlashes path.toList).2).map String.ofList := rfl

theorem parts_of_not_mem {s : String} (h : '/' ∉ s.toList) : parts s = [s] := by
  simp [parts_eq, cutAtSlashes_of_not_mem h]

/-- A directory is a part of its own. -/
theorem parts_below {directory : String} (h : '/' ∉ directory.toList) (path : String) :
    parts (directory ++ "/" ++ path) = directory :: parts path := by
  have hchars : (directory ++ "/" ++ path).toList = directory.toList ++ '/' :: path.toList := by
    simp
  rw [parts_eq, hchars, cutAtSlashes_append_slash h]
  simp [parts_eq]

/-- What is put behind a path belongs to its last part. -/
theorem exists_parts_append (cs : List Char) {es : List Char} (h : '/' ∉ es) :
    ∃ folders stem,
      (cutAtSlashes cs).1 :: (cutAtSlashes cs).2 = folders ++ [stem]
      ∧ (cutAtSlashes (cs ++ es)).1 :: (cutAtSlashes (cs ++ es)).2 = folders ++ [stem ++ es] := by
  induction cs with
  | nil =>
    refine ⟨[], [], rfl, ?_⟩
    rw [List.nil_append, cutAtSlashes_of_not_mem h]
    rfl
  | cons c cs ih =>
    obtain ⟨folders, stem, hplain, hlonger⟩ := ih
    by_cases hslash : c = '/'
    · subst hslash
      refine ⟨[] :: folders, stem, ?_, ?_⟩
      · rw [cutAtSlashes_slash, hplain]
        rfl
      · rw [List.cons_append, cutAtSlashes_slash, hlonger]
        rfl
    · rw [List.cons_append, cutAtSlashes_cons_of_ne hslash, cutAtSlashes_cons_of_ne hslash]
      -- The character goes to the first part, which may be the last one as well.
      cases folders with
      | nil =>
        obtain ⟨hfirst, hlater⟩ := List.cons.inj hplain
        obtain ⟨hfirst', hlater'⟩ := List.cons.inj hlonger
        refine ⟨[], c :: stem, ?_, ?_⟩
        · rw [hfirst, hlater]
          rfl
        · rw [hfirst', hlater']
          rfl
      | cons folder folders =>
        obtain ⟨hfirst, hlater⟩ := List.cons.inj hplain
        obtain ⟨hfirst', hlater'⟩ := List.cons.inj hlonger
        refine ⟨(c :: folder) :: folders, stem, ?_, ?_⟩
        · rw [hfirst, hlater]
          rfl
        · rw [hfirst', hlater']
          rfl

def folders (name : String) : List String := (parts name).dropLast

def stem (name : String) : String := (parts name).getLast?.getD ""

theorem parts_append (name : String) {extension : String} (h : '/' ∉ extension.toList) :
    parts (name ++ extension) = folders name ++ [stem name ++ extension] := by
  -- An extension without a slash only makes the last part longer.
  obtain ⟨fs, s, hplain, hlonger⟩ := exists_parts_append name.toList h
  have hname : parts name = fs.map String.ofList ++ [String.ofList s] := by
    rw [parts_eq, hplain, List.map_append]
    rfl
  have hfolders : folders name = fs.map String.ofList := by
    rw [folders, hname, List.dropLast_concat]
  have hstem : stem name = String.ofList s := by
    rw [stem, hname, List.getLast?_concat, Option.getD_some]
  rw [parts_eq, String.toList_append, hlonger, hfolders, hstem, List.map_append, List.map_singleton,
    String.ofList_append, String.ofList_toList]

theorem folders_of_not_mem {name : String} (h : '/' ∉ name.toList) : folders name = [] := by
  rw [folders, parts_of_not_mem h]
  rfl

/-! ## Steps -/

/-- The parts of a path that lead somewhere. -/
def steps (path : String) : List String := (parts path).filter fun part => !isIdle part

/-- A text of three characters is no part that leads nowhere, and does not lead upwards. -/
theorem isStep_of_length {part : String} (h : 3 ≤ part.length) :
    isIdle part = false ∧ part ≠ ".." := by
  have hne : ∀ other : String, other.length < 3 → part ≠ other := by
    rintro other hshort rfl
    omega
  refine ⟨?_, hne ".." (by decide)⟩
  rw [isIdle, Bool.or_eq_false_iff, decide_eq_false_iff_not, decide_eq_false_iff_not]
  exact ⟨hne "" (by decide), hne "." (by decide)⟩

/-- The steps of a name before its last slash. -/
def folderSteps (name : String) : List String := (folders name).filter fun part => !isIdle part

/-- The steps of a name: those before its last slash and what stands behind it. -/
def nameSteps (name : String) : List String × String := (folderSteps name, stem name)

/-- The steps to a file: the directory, the folders of its name and its stem with the extension. -/
theorem steps_file {directory extension : String} (name : String)
    (hdirectory : '/' ∉ directory.toList) (hstep : isIdle directory = false)
    (hextension : '/' ∉ extension.toList) (hlong : 3 ≤ extension.length) :
    steps (directory ++ "/" ++ name ++ extension)
      = directory :: folderSteps name ++ [stem name ++ extension] := by
  have hassoc : directory ++ "/" ++ name ++ extension = directory ++ "/" ++ (name ++ extension) :=
    String.append_assoc
  have hlast : isIdle (stem name ++ extension) = false := by
    refine (isStep_of_length ?_).1
    rw [String.length_append]
    omega
  rw [hassoc, steps, parts_below hdirectory, parts_append name hextension]
  simp [folderSteps, hstep, hlast]

/-! ## Places -/

def step? (place : List String) (step : String) : Option (List String) :=
  if step = ".." then place.tail? else some (step :: place)

/-- Where a path leads to from the directory in which it begins; none if it leads out of it on its
    way. -/
def place? (path : String) : Option (List String) :=
  ((steps path).foldlM step? []).map List.reverse

theorem foldlM_step?_of_not_mem {taken : List String} (h : ".." ∉ taken) (place : List String) :
    taken.foldlM step? place = some (taken.reverse ++ place) := by
  induction taken generalizing place with
  | nil => rfl
  | cons s rest ih =>
    rw [List.mem_cons, not_or] at h
    have hstep : step? place s = some (s :: place) := if_neg (Ne.symm h.1)
    rw [List.foldlM_cons, hstep]
    show rest.foldlM step? (s :: place) = _
    rw [ih h.2]
    simp

end ClientGen.PathText
