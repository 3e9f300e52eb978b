import ClientGen.Proofs.Package.Assembly
import ClientGen.Proofs.Package.PathView

/-! # Confinement to the output directory

  Each file of a package has a home: the directory with which its path begins, or the output
  directory itself. The rest of the path comes from the names of the document, and nothing keeps
  these from being paths that lead upwards.

  * **`LiesIn`**: a path leads to a place in a directory and does not leave the output on its way.
  * **`StaysIn`**: the folders of a name, taken from a directory, end in it or below.

  The files lie in their homes exactly if the names stay in the directories of their kinds
  (`confinement_of_compile`); names without two dots between slashes do. -/

namespace ClientGen.Package

open PathText (step?)

/-- A path leads to a place in a directory, with no step out of where it begins. -/
def LiesIn (directory : List String) (path : String) : Prop :=
  ∃ rest, rest ≠ [] ∧ PathText.place? path = some (directory ++ rest)

/-- The directory that a path begins with; none if the path has no slash. -/
def home (path : String) : List String := (PathText.folders path).take 1

/-- The folders of a name lead from a directory to the directory or to a place in it, with no step
    out of where the directory lies. Places are held innermost first. -/
def StaysIn (directory name : String) : Prop :=
  ∃ inner, (PathText.folderSteps name).foldlM step? [directory] = some (inner ++ [directory])

/-! ## Single paths -/

theorem home_filePath {directory extension : String} (hdirectory : directory ∈ directories)
    (hextension : extension ∈ extensions) (n : String) :
    home (filePath directory extension n) = [directory] := by
  have hd : '/' ∉ directory.toList := by
    revert directory
    decide
  have he : '/' ∉ extension.toList := by
    revert extension
    decide
  -- The slash behind the directory is the first one of the path, whatever slashes the name has.
  have hassoc : filePath directory extension n = directory ++ "/" ++ (n ++ extension) := by
    rw [filePath, String.append_assoc]
  have hparts : PathText.parts (filePath directory extension n)
      = directory :: (PathText.folders n ++ [PathText.stem n ++ extension]) := by
    rw [hassoc, PathText.parts_below hd, PathText.parts_append n he]
  rw [home, PathText.folders, hparts, ← List.cons_append, List.dropLast_concat, List.take_succ_cons,
    List.take_zero]

/-- Where a file lies depends on the folders of its name only. -/
theorem place?_filePath {directory extension : String} (hdirectory : directory ∈ directories)
    (hextension : extension ∈ extensions) (n : String) :
    PathText.place? (filePath directory extension n)
      = ((PathText.folderSteps n).foldlM step? [directory]).map
          (fun inner => inner.reverse ++ [PathText.stem n ++ extension]) := by
  have hfirst : step? [] directory = some [directory] := by
    have hne : directory ≠ ".." := by
      revert directory
      decide
    exact if_neg hne
  have hlong : 3 ≤ extension.length := by
    revert extension
    decide
  -- The first and the last step lead inwards, so only the folders can lead out.
  have hlast : PathText.stem n ++ extension ≠ ".." := by
    refine (PathText.isStep_of_length ?_).2
    rw [String.length_append]
    omega
  have hfile : ∀ place, step? place (PathText.stem n ++ extension)
      = some ((PathText.stem n ++ extension) :: place) := fun place => if_neg hlast
  rw [PathText.place?, steps_filePath hdirectory hextension, List.cons_append, List.foldlM_cons,
    hfirst]
  show Option.map List.reverse (List.foldlM step? [directory] (_ ++ [_])) = _
  rw [List.foldlM_append]
  cases hfolders : (PathText.folderSteps n).foldlM step? [directory] with
  | none => rfl
  | some place =>
    show Option.map List.reverse (List.foldlM step? place [_]) = _
    rw [List.foldlM_cons, hfile]
    simp

/-- A file lies in its directory exactly if its name stays there. -/
theorem liesIn_filePath_iff {directory extension : String} (hdirectory : directory ∈ directories)
    (hextension : extension ∈ extensions) (n : String) :
    LiesIn [directory] (filePath directory extension n) ↔ StaysIn directory n := by
  rw [LiesIn, StaysIn, place?_filePath hdirectory hextension]
  constructor
  · rintro ⟨rest, hrest, hplace⟩
    obtain ⟨place, hfolders, hfile⟩ := Option.map_eq_some_iff.mp hplace
    -- The last step is the file, which is not the directory: there is more than one step.
    cases hsteps : place.reverse with
    | nil =>
      rw [hsteps] at hfile
      simp only [List.nil_append, List.singleton_append, List.cons.injEq] at hfile
      exact absurd hfile.2.symm hrest
    | cons first inner =>
      rw [hsteps] at hfile
      obtain ⟨rfl, _⟩ := List.cons.inj hfile
      have hinner : place = inner.reverse ++ [first] := by
        rw [← List.reverse_cons, ← hsteps, List.reverse_reverse]
      exact ⟨inner.reverse, by rw [hfolders, hinner]⟩
  · rintro ⟨inner, hfolders⟩
    refine ⟨inner.reverse ++ [PathText.stem n ++ extension], by simp, ?_⟩
    rw [hfolders]
    simp

/-- A file stays at home exactly if its name does. -/
theorem liesIn_home_iff {directory extension : String} (hdirectory : directory ∈ directories)
    (hextension : extension ∈ extensions) (n : String) :
    LiesIn (home (filePath directory extension n)) (filePath directory extension n)
      ↔ StaysIn directory n := by
  rw [home_filePath hdirectory hextension]
  exact liesIn_filePath_iff hdirectory hextension n

/-- Names that do not lead upwards stay everywhere. -/
theorem staysIn_of_not_mem {n : String} (h : ".." ∉ PathText.folders n) (directory : String) :
    StaysIn directory n := by
  refine ⟨(PathText.folderSteps n).reverse, PathText.foldlM_step?_of_not_mem ?_ _⟩
  intro hmem
  exact h (List.mem_of_mem_filter hmem)

/-! ## Packages -/

/-- Where the files of a package lie, given the ids of its operations and the names of its
    definitions. -/
structure Confinement (ids names files : List String) : Prop where
  /-- Homes: each file belongs to a directory of the package, but the entry point and the manifest
      belong to the output itself. -/
  homes : ∀ path ∈ files,
    (∃ directory ∈ directories, home path = [directory])
      ∨ path ∈ ["index.js", "package.json"] ∧ home path = []
  /-- Confinement: the files lie in their homes exactly if the ids and the names stay there. -/
  liesIn_iff : (∀ path ∈ files, LiesIn (home path) path)
    ↔ (∀ id ∈ ids, StaysIn "src" id) ∧ ∀ n ∈ names, StaysIn "types" n
  /-- Names that do not lead upwards keep the files at home. -/
  of_folders : (∀ n ∈ ids ++ names, ".." ∉ PathText.folders n) →
    ∀ path ∈ files, LiesIn (home path) path
  /-- Names without a slash keep the files at home, even if they are two dots. -/
  of_plain : (∀ n ∈ ids ++ names, '/' ∉ n.toList) → ∀ path ∈ files, LiesIn (home path) path

theorem homes_files (p : Package) (info : PackageInfo) :
    ∀ path ∈ (p.files info).map OutputFile.path,
      (∃ directory ∈ directories, home path = [directory])
        ∨ path ∈ ["index.js", "package.json"] ∧ home path = [] := by
  have hhome : ∀ {directory extension : String} (n : String), directory ∈ directories →
      extension ∈ extensions → ∃ d ∈ directories, home (filePath directory extension n) = [d] :=
    fun n hdirectory hextension => ⟨_, hdirectory, home_filePath hdirectory hextension n⟩
  rw [forall_paths_iff]
  refine ⟨?helpers, ?operations, ?definitions, ?root⟩
  case helpers =>
    intro n _
    rw [helperPath_eq]
    exact Or.inl (hhome n (by decide) (by decide))
  case operations =>
    intro u _
    rw [typedPath_eq, plainPath_eq]
    exact ⟨Or.inl (hhome u.name (by decide) (by decide)),
      Or.inl (hhome u.name (by decide) (by decide))⟩
  case definitions =>
    intro u _
    rw [definitionPath_eq]
    exact Or.inl (hhome u.name (by decide) (by decide))
  case root =>
    have hroot : ∀ path ∈ ["index.js", "package.json"], home path = [] := by decide
    exact fun path hpath => Or.inr ⟨hpath, hroot path hpath⟩

theorem liesIn_files_iff (p : Package) (info : PackageInfo) :
    (∀ path ∈ (p.files info).map OutputFile.path, LiesIn (home path) path)
      ↔ (∀ u ∈ p.operations, StaysIn "src" u.name)
        ∧ ∀ u ∈ p.definitions, StaysIn "types" u.name := by
  have hoperation : ∀ n, LiesIn (home (typedPath n)) (typedPath n)
        ∧ LiesIn (home (plainPath n)) (plainPath n)
      ↔ StaysIn "src" n := by
    intro n
    rw [typedPath_eq, plainPath_eq, liesIn_home_iff (by decide) (by decide),
      liesIn_home_iff (by decide) (by decide), and_self_iff]
  have hdefinition : ∀ n, LiesIn (home (definitionPath n)) (definitionPath n)
      ↔ StaysIn "types" n := by
    intro n
    rw [definitionPath_eq, liesIn_home_iff (by decide) (by decide)]
  -- The other files have fixed names.
  have hhelpers : ∀ n ∈ [Generated.request, Generated.makeQuery],
      LiesIn (home (helperPath n)) (helperPath n) := by
    intro n hn
    have hfolders : ".." ∉ PathText.folders n := by
      revert n
      decide
    rw [helperPath_eq, liesIn_home_iff (by decide) (by decide)]
    exact staysIn_of_not_mem hfolders _
  have hroot : ∀ path ∈ ["index.js", "package.json"], LiesIn (home path) path := by
    intro path hpath
    have hplace : home path = [] ∧ PathText.place? path = some [path] := by
      revert path
      decide
    exact ⟨[path], by simp, by rw [hplace.1, hplace.2, List.nil_append]⟩
  rw [forall_paths_iff]
  simp only [hoperation, hdefinition]
  constructor
  · rintro ⟨_, hoperations, hdefinitions, _⟩
    exact ⟨hoperations, hdefinitions⟩
  · rintro ⟨hoperations, hdefinitions⟩
    exact ⟨hhelpers, hoperations, hdefinitions, hroot⟩

/-- **Confinement**: the files of an accepted document lie in the directories that they belong to
    exactly if the names of the document do not lead out of these. -/
theorem confinement_of_compile {d : Document} {p : Package} (info : PackageInfo)
    (compiled : d.compile.result = .ok p) :
    ∃ operations, d.operations = .ok operations
      ∧ Confinement (operations.map Operation.id) (OrderedMap.keys d.definitions)
          ((p.files info).map OutputFile.path) := by
  obtain ⟨operations, hoperations, rfl⟩ := eq_packageOf_of_compile compiled
  have hiff := liesIn_files_iff (packageOf operations d.definitions) info
  have hids : (∀ u ∈ (packageOf operations d.definitions).operations, StaysIn "src" u.name)
      ↔ ∀ id ∈ operations.map Operation.id, StaysIn "src" id := by
    simp only [packageOf, List.forall_mem_map]
    rfl
  have hnames : (∀ u ∈ (packageOf operations d.definitions).definitions, StaysIn "types" u.name)
      ↔ ∀ n ∈ OrderedMap.keys d.definitions, StaysIn "types" n := by
    simp only [packageOf, OrderedMap.keys, List.forall_mem_map]
    rfl
  rw [hids, hnames] at hiff
  have hfolders : (∀ n ∈ operations.map Operation.id ++ OrderedMap.keys d.definitions,
        ".." ∉ PathText.folders n) →
      ∀ path ∈ ((packageOf operations d.definitions).files info).map OutputFile.path,
        LiesIn (home path) path := by
    intro h
    rw [hiff]
    constructor
    · intro id hid
      exact staysIn_of_not_mem (h id (List.mem_append_left _ hid)) "src"
    · intro n hn
      exact staysIn_of_not_mem (h n (List.mem_append_right _ hn)) "types"
  refine ⟨operations, hoperations, homes_files _ info, hiff, hfolders, ?_⟩
  intro hplain
  apply hfolders
  intro n hn
  -- A name without a slash has no folders at all.
  rw [PathText.folders_of_not_mem (hplain n hn)]
  exact List.not_mem_nil

/-- A document with an id that leads upwards, but only to where it came from, and a name with a
    folder. -/
def roundTrip : Document where
  paths := [("/pets",
    [("get", .object [("operationId", .string "pets/../list"), ("summary", .string "s")])])]
  definitions := [("pets/Pet", Schema.ofKind "string")]

theorem confinement_roundTrip :
    ∃ p, roundTrip.compile.result = .ok p
      ∧ StaysIn "src" "pets/../list"
      ∧ ∃ operations, roundTrip.operations = .ok operations
        ∧ Confinement (operations.map Operation.id) (OrderedMap.keys roundTrip.definitions)
            ((p.files ⟨"pets", "1.0.0"⟩).map OutputFile.path) :=
  ⟨_, rfl, ⟨[], by decide⟩, confinement_of_compile ⟨"pets", "1.0.0"⟩ rfl⟩

/-- Two operations with ids that lead upwards: out of the directory of sources, and out of the
    output. -/
def upwardIds : Document where
  paths := [("/pets",
    [("get", .object [("operationId", .string "../index"), ("summary", .string "s")]),
     ("post", .object [("operationId", .string "../../stray"), ("summary", .string "s")])])]

/-- Ids are not checked for steps upwards. The source of one operation takes the place of the entry
    point, and that of another lies beside the output directory. -/
theorem strays_upwardIds :
    ∃ p report, upwardIds.compile.result = .ok p
      ∧ (p.write ⟨"pets", "1.0.0"⟩ "out" {}).2 = .ok report
      ∧ (∃ path ∈ report.files, home path = ["src"] ∧ PathText.place? path = some ["index.js"])
      ∧ (∃ path ∈ report.files, home path = ["src"] ∧ PathText.place? path = none)
      ∧ ((p.write ⟨"pets", "1.0.0"⟩ "out" {}).1.lookup? "stray.js").isSome
      ∧ ¬ ∀ path ∈ report.files, LiesIn (home path) path := by
  have hwritten : ∃ p report, upwardIds.compile.result = .ok p
      ∧ (p.write ⟨"pets", "1.0.0"⟩ "out" {}).2 = .ok report
      ∧ (∃ path ∈ report.files, home path = ["src"] ∧ PathText.place? path = some ["index.js"])
      ∧ (∃ path ∈ report.files, home path = ["src"] ∧ PathText.place? path = none)
      ∧ ((p.write ⟨"pets", "1.0.0"⟩ "out" {}).1.lookup? "stray.js").isSome :=
    exists_write_of_any
      (fun later files =>
        (∃ path ∈ files, home path = ["src"] ∧ PathText.place? path = some ["index.js"])
        ∧ (∃ path ∈ files, home path = ["src"] ∧ PathText.place? path = none)
        ∧ (later.lookup? "stray.js").isSome)
      (by decide +kernel)
  obtain ⟨p, report, compiled, written, hindex, hstray, hlookup⟩ := hwritten
  refine ⟨p, report, compiled, written, hindex, hstray, hlookup, fun lies => ?_⟩
  -- A path that leads out of where it begins lies in no directory there.
  obtain ⟨path, hpath, _, hplace⟩ := hstray
  obtain ⟨rest, _, hsome⟩ := lies path hpath
  rw [hplace] at hsome
  cases hsome

end ClientGen.Package
