import ClientGen.Proofs.Package.Writing

/-! # The paths of a package

  Where the files of a package lie below the output directory, and what a report of a successful
  write lists: these paths, all of them, in the order of the files. -/

namespace ClientGen.Package

variable {p : Package} {info : PackageInfo}

/-! ## Reports -/

/-- A report lists the paths of the files of the package. -/
theorem files_of_write {output : String} {st : Storage} {report : WriteReport}
    (h : (p.write info output st).2 = .ok report) :
    report.files = (p.files info).map OutputFile.path := by
  rw [write_eq] at h
  cases hwritten : (writeFiles output (p.files info) st).2 with
  | error e => simp [hwritten, Except.map] at h
  | ok paths =>
    obtain rfl := by simpa [hwritten, Except.map] using h
    exact writeFiles_eq_ok hwritten

/-- What is written for a document: the disk afterwards and the paths of the files. -/
def written? (d : Document) (info : PackageInfo) (output : String) (st : Storage) :
    Option (Storage × List String) :=
  match d.compile.result with
  | .error _ => none
  | .ok p =>
    match p.write info output st with
    | (_, .error _) => none
    | (later, .ok report) => some (later, report.files)

/-- What can be decided of this holds of a package and a report. -/
theorem exists_write_of_any {d : Document} {output : String} {st : Storage}
    (P : Storage → List String → Prop) [∀ later files, Decidable (P later files)]
    (h : (written? d info output st).any (fun w => decide (P w.1 w.2)) = true) :
    ∃ p report, d.compile.result = .ok p ∧ (p.write info output st).2 = .ok report
      ∧ P (p.write info output st).1 report.files := by
  unfold written? at h
  split at h
  · cases h
  next p hcompile =>
    split at h
    · cases h
    next later report hwrite =>
      exact ⟨p, report, hcompile, by rw [hwrite], by simpa [hwrite] using h⟩

/-! ## Paths -/

def helperPath (name : String) : String := "helpers/" ++ name ++ ".js"

/-- The path of the source of an operation that has no types. -/
def plainPath (name : String) : String := "src/" ++ name ++ "." ++ Layout.CommonJs.extension

/-- The path of the source of an operation that has types. -/
def typedPath (name : String) : String := "src/" ++ name ++ "." ++ Layout.Flow.extension

def definitionPath (name : String) : String := "types/" ++ name ++ "." ++ Layout.Flow.extension

theorem paths_files (p : Package) (info : PackageInfo) :
    (p.files info).map OutputFile.path
      = [helperPath Generated.request, helperPath Generated.makeQuery]
        ++ p.operations.flatMap (fun u => [typedPath u.name, plainPath u.name])
        ++ p.definitions.map (fun u => definitionPath u.name)
        ++ ["index.js", "package.json"] := by
  simp only [files, List.map_append, List.map_flatMap, List.map_map]
  rfl

def filePath (directory extension name : String) : String := directory ++ "/" ++ name ++ extension

theorem helperPath_eq (name : String) : helperPath name = filePath "helpers" ".js" name := rfl

theorem typedPath_eq (name : String) : typedPath name = filePath "src" ".js.flow" name := by
  apply String.toList_inj.mp
  simp [typedPath, filePath, Layout.Flow.extension]

theorem plainPath_eq (name : String) : plainPath name = filePath "src" ".js" name := by
  apply String.toList_inj.mp
  simp [plainPath, filePath, Layout.CommonJs.extension]

theorem definitionPath_eq (name : String) :
    definitionPath name = filePath "types" ".js.flow" name := by
  apply String.toList_inj.mp
  simp [definitionPath, filePath, Layout.Flow.extension]

/-- What holds of all paths of a package, kind by kind. -/
theorem forall_paths_iff {P : String → Prop} :
    (∀ path ∈ (p.files info).map OutputFile.path, P path)
      ↔ (∀ n ∈ [Generated.request, Generated.makeQuery], P (helperPath n))
        ∧ (∀ u ∈ p.operations, P (typedPath u.name) ∧ P (plainPath u.name))
        ∧ (∀ u ∈ p.definitions, P (definitionPath u.name))
        ∧ ∀ path ∈ ["index.js", "package.json"], P path := by
  rw [paths_files]
  simp only [List.forall_mem_append, List.forall_mem_flatMap, List.forall_mem_map,
    List.forall_mem_cons, List.not_mem_nil, false_imp_iff, implies_true, and_true, and_assoc]

end ClientGen.Package
