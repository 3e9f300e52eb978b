import ClientGen.Proofs.Package.Files
import ClientGen.Proofs.PathText.Steps
import ClientGen.Proofs.Text.Lowercase
import Mathlib.Data.List.Basic

/-! # Views of paths

  Whether two paths are the same depends on how they are looked at:

  * **As texts** they are compared letter by letter (`textView`).
  * **As steps** they are compared as a disk follows them (`stepView`).
  * **In lower case** they are compared as on a disk that does not tell capital letters from small
    ones. This goes with texts and with steps (`PathView.lowered`).

  In each of these views files of different kinds have different paths, so the paths of a package
  are distinct exactly if the names are that go into them (`PathView.nodup_paths_iff`). -/

namespace ClientGen.Package

/-! ## Views -/

def directories : List String := ["helpers", "src", "types"]

def extensions : List String := [".js", ".js.flow"]

/-- A way to look at paths, in which the paths of different kinds of files differ. -/
structure PathView (κ φ : Type) where
  /-- What is seen of a path. -/
  view : String → κ
  /-- What is seen of a name in the path of a file. -/
  form : String → φ
  /-- The first and the last character of what is seen of a path. -/
  ends : κ → Option Char × Option Char
  /-- Files of one kind are told apart by their names. -/
  file_iff : ∀ {directory extension : String}, directory ∈ directories → extension ∈ extensions →
    ∀ m n, view (filePath directory extension m) = view (filePath directory extension n)
      ↔ form m = form n
  /-- The ends of a path are those of the directory and of the extension. -/
  ends_file : ∀ {directory extension : String}, directory ∈ directories → extension ∈ extensions →
    ∀ n, ends (view (filePath directory extension n))
      = (directory.toList.head?, extension.toList.getLast?)
  ends_index : ends (view "index.js") = (some 'i', some 's')
  ends_manifest : ends (view "package.json") = (some 'p', some 'n')
  helpers_apart : form Generated.request ≠ form Generated.makeQuery

namespace PathView

variable {κ φ : Type} (v : PathView κ φ)

theorem ends_helperPath (n : String) : v.ends (v.view (helperPath n)) = (some 'h', some 's') := by
  rw [helperPath_eq]
  exact v.ends_file (by simp [directories]) (by simp [extensions]) n

theorem ends_definitionPath (n : String) :
    v.ends (v.view (definitionPath n)) = (some 't', some 'w') := by
  rw [definitionPath_eq]
  exact v.ends_file (by simp [directories]) (by simp [extensions]) n

theorem ends_typedPath (n : String) : v.ends (v.view (typedPath n)) = (some 's', some 'w') := by
  rw [typedPath_eq]
  exact v.ends_file (by simp [directories]) (by simp [extensions]) n

theorem ends_plainPath (n : String) : v.ends (v.view (plainPath n)) = (some 's', some 's') := by
  rw [plainPath_eq]
  exact v.ends_file (by simp [directories]) (by simp [extensions]) n

theorem helperPath_iff (m n : String) :
    v.view (helperPath m) = v.view (helperPath n) ↔ v.form m = v.form n := by
  rw [helperPath_eq, helperPath_eq]
  exact v.file_iff (by simp [directories]) (by simp [extensions]) m n

theorem typedPath_iff (m n : String) :
    v.view (typedPath m) = v.view (typedPath n) ↔ v.form m = v.form n := by
  rw [typedPath_eq, typedPath_eq]
  exact v.file_iff (by simp [directories]) (by simp [extensions]) m n

theorem plainPath_iff (m n : String) :
    v.view (plainPath m) = v.view (plainPath n) ↔ v.form m = v.form n := by
  rw [plainPath_eq, plainPath_eq]
  exact v.file_iff (by simp [directories]) (by simp [extensions]) m n

theorem definitionPath_iff (m n : String) :
    v.view (definitionPath m) = v.view (definitionPath n) ↔ v.form m = v.form n := by
  rw [definitionPath_eq, definitionPath_eq]
  exact v.file_iff (by simp [directories]) (by simp [extensions]) m n

/-- The two sources of one operation differ in their last letter, whatever the names. -/
theorem typedPath_ne_plainPath (m n : String) : v.view (typedPath m) ≠ v.view (plainPath n) := by
  intro h
  have hends := congrArg v.ends h
  rw [ends_typedPath, ends_plainPath] at hends
  simp at hends

/-- The paths of operations are distinct exactly if the names are. -/
theorem nodup_operationPaths_iff (names : List String) :
    (names.flatMap fun n => [v.view (typedPath n), v.view (plainPath n)]).Nodup
      ↔ (names.map v.form).Nodup := by
  induction names with
  | nil => simp
  | cons n names ih =>
    -- A path of this operation is met again only where its name is.
    have htyped : v.view (typedPath n)
          ∈ names.flatMap (fun m => [v.view (typedPath m), v.view (plainPath m)])
        ↔ v.form n ∈ names.map v.form := by
      simp [List.mem_flatMap, v.typedPath_iff, v.typedPath_ne_plainPath, eq_comm]
    have hplain : v.view (plainPath n)
          ∈ names.flatMap (fun m => [v.view (typedPath m), v.view (plainPath m)])
        ↔ v.form n ∈ names.map v.form := by
      simp [List.mem_flatMap, v.plainPath_iff, (v.typedPath_ne_plainPath _ _).symm, eq_comm]
    have hpair : v.view (typedPath n) ≠ v.view (plainPath n) := v.typedPath_ne_plainPath n n
    rw [List.flatMap_cons, List.cons_append, List.cons_append, List.nil_append, List.nodup_cons,
      List.nodup_cons, List.mem_cons, htyped, hplain, ih, List.map_cons, List.nodup_cons]
    simp [hpair]

theorem nodup_definitionPaths_iff (names : List String) :
    (names.map fun n => v.view (definitionPath n)).Nodup ↔ (names.map v.form).Nodup := by
  induction names with
  | nil => simp
  | cons n names ih =>
    rw [List.map_cons, List.map_cons, List.nodup_cons, List.nodup_cons, ih]
    simp [v.definitionPath_iff]

/-- Lists whose entries differ in something can be treated one by one. -/
theorem nodup_append_iff_of_apart {α β : Type} (key : α → β) {as bs : List α}
    (h : ∀ a ∈ as, ∀ b ∈ bs, key a ≠ key b) : (as ++ bs).Nodup ↔ as.Nodup ∧ bs.Nodup := by
  rw [List.nodup_append]
  constructor
  · rintro ⟨has, hbs, _⟩
    exact ⟨has, hbs⟩
  · rintro ⟨has, hbs⟩
    refine ⟨has, hbs, ?_⟩
    rintro a ha b hb rfl
    exact h a ha a hb rfl

/-- The paths of a package are distinct exactly if those of its operations are, and those of its
    definitions. Files of different kinds differ in the first letter already. -/
theorem nodup_paths_iff (p : Package) (info : PackageInfo) :
    (((p.files info).map OutputFile.path).map v.view).Nodup
      ↔ ((p.operations.map SourceUnit.name).map v.form).Nodup
        ∧ ((p.definitions.map SourceUnit.name).map v.form).Nodup := by
  have hpaths : ((p.files info).map OutputFile.path).map v.view
      = [v.view (helperPath Generated.request), v.view (helperPath Generated.makeQuery)]
        ++ (((p.operations.map SourceUnit.name).flatMap fun n =>
            [v.view (typedPath n), v.view (plainPath n)])
          ++ (((p.definitions.map SourceUnit.name).map fun n => v.view (definitionPath n))
            ++ [v.view "index.js", v.view "package.json"])) := by
    rw [paths_files]
    simp [List.map_flatMap, List.flatMap_map, Function.comp_def]
  -- What the paths of each kind begin with: no two kinds share a letter.
  have hhelper : ∀ a ∈ [v.view (helperPath Generated.request),
      v.view (helperPath Generated.makeQuery)], (v.ends a).1 = some 'h' := by
    intro a ha
    simp only [List.mem_cons, List.not_mem_nil, or_false] at ha
    rcases ha with rfl | rfl
    · rw [ends_helperPath]
    · rw [ends_helperPath]
  have hoperation : ∀ a ∈ (p.operations.map SourceUnit.name).flatMap (fun n =>
      [v.view (typedPath n), v.view (plainPath n)]), (v.ends a).1 = some 's' := by
    intro a ha
    simp only [List.mem_flatMap, List.mem_cons, List.not_mem_nil, or_false] at ha
    rcases ha with ⟨n, _, rfl | rfl⟩
    · rw [ends_typedPath]
    · rw [ends_plainPath]
  have hdefinition : ∀ a ∈ (p.definitions.map SourceUnit.name).map (fun n =>
      v.view (definitionPath n)), (v.ends a).1 = some 't' := by
    intro a ha
    obtain ⟨n, _, rfl⟩ := List.mem_map.mp ha
    rw [ends_definitionPath]
  have hroot : ∀ a ∈ [v.view "index.js", v.view "package.json"],
      (v.ends a).1 = some 'i' ∨ (v.ends a).1 = some 'p' := by
    intro a ha
    simp only [List.mem_cons, List.not_mem_nil, or_false] at ha
    rcases ha with rfl | rfl
    · exact Or.inl (by rw [v.ends_index])
    · exact Or.inr (by rw [v.ends_manifest])
  have hhelpers : v.view (helperPath Generated.request)
      ≠ v.view (helperPath Generated.makeQuery) := by
    rw [Ne, helperPath_iff]
    exact v.helpers_apart
  -- Each of the three lists around the names is distinct by itself.
  have hends : v.view "index.js" ≠ v.view "package.json" := by
    intro h
    have hsame := congrArg v.ends h
    rw [v.ends_index, v.ends_manifest] at hsame
    simp at hsame
  have hdefinitions_root : ∀ a ∈ (p.definitions.map SourceUnit.name).map (fun n =>
        v.view (definitionPath n)), ∀ b ∈ [v.view "index.js", v.view "package.json"],
      (v.ends a).1 ≠ (v.ends b).1 := by
    intro a ha b hb
    rcases hroot b hb with hb | hb <;> simp [hdefinition a ha, hb]
  rw [hpaths, nodup_append_iff_of_apart (fun a => (v.ends a).1),
    nodup_append_iff_of_apart (fun a => (v.ends a).1),
    nodup_append_iff_of_apart (fun a => (v.ends a).1) hdefinitions_root,
    nodup_operationPaths_iff, nodup_definitionPaths_iff]
  · simp [hhelpers, hends]
  · intro a ha b hb
    rcases List.mem_append.mp hb with hb | hb
    · simp [hoperation a ha, hdefinition b hb]
    · rcases hroot b hb with hb | hb <;> simp [hoperation a ha, hb]
  · intro a ha b hb
    rcases List.mem_append.mp hb with hb | hb
    · simp [hhelper a ha, hoperation b hb]
    rcases List.mem_append.mp hb with hb | hb
    · simp [hhelper a ha, hdefinition b hb]
    · rcases hroot b hb with hb | hb <;> simp [hhelper a ha, hb]

end PathView

/-! ## Texts, steps and lower case -/

theorem toList_ne_nil {directory extension : String} (hdirectory : directory ∈ directories)
    (hextension : extension ∈ extensions) : directory.toList ≠ [] ∧ extension.toList ≠ [] := by
  constructor
  · revert directory
    decide
  · revert extension
    decide

def textView : PathView String String where
  view := id
  form := id
  ends path := (path.toList.head?, path.toList.getLast?)
  file_iff := by
    intro directory extension _ _ m n
    simp [filePath]
  ends_file := by
    intro directory extension hdirectory hextension n
    obtain ⟨hd, he⟩ := toList_ne_nil hdirectory hextension
    have hchars : (id (filePath directory extension n)).toList
        = directory.toList ++ '/' :: n.toList ++ extension.toList := by
      simp [filePath]
    rw [hchars, List.getLast?_append_of_ne_nil _ he, List.append_assoc,
      List.head?_append_of_ne_nil _ hd]
  ends_index := by decide
  ends_manifest := by decide
  helpers_apart := by decide

theorem steps_filePath {directory extension : String} (hdirectory : directory ∈ directories)
    (hextension : extension ∈ extensions) (n : String) :
    PathText.steps (filePath directory extension n)
      = directory :: PathText.folderSteps n ++ [PathText.stem n ++ extension] := by
  have hd : '/' ∉ directory.toList ∧ PathText.isIdle directory = false := by
    revert directory
    decide
  have he : '/' ∉ extension.toList ∧ 3 ≤ extension.length := by
    revert extension
    decide
  exact PathText.steps_file n hd.1 hd.2 he.1 he.2

def stepView : PathView (List String) (List String × String) where
  view := PathText.steps
  form := PathText.nameSteps
  ends steps :=
    (steps.head?.bind fun s => s.toList.head?, steps.getLast?.bind fun s => s.toList.getLast?)
  file_iff := by
    intro directory extension hdirectory hextension m n
    rw [steps_filePath hdirectory hextension, steps_filePath hdirectory hextension]
    simp [PathText.nameSteps]
  ends_file := by
    intro directory extension hdirectory hextension n
    obtain ⟨_, he⟩ := toList_ne_nil hdirectory hextension
    rw [steps_filePath hdirectory hextension, List.getLast?_concat]
    simp [List.getLast?_append_of_ne_nil _ he]
  ends_index := by decide
  ends_manifest := by decide
  helpers_apart := by decide

theorem lower_filePath {directory extension : String} (hdirectory : directory ∈ directories)
    (hextension : extension ∈ extensions) (n : String) :
    Text.lower (filePath directory extension n)
      = filePath directory extension (Text.lowerStem n) := by
  -- There are few directories and extensions, so what is asked of them is evaluated.
  have hd : (directory ++ "/").toList.all Text.isLowered = true
      ∧ Text.nextIsCased (directory ++ "/").toList.reverse = false := by
    revert directory
    decide +kernel
  have he : extension.toList.all Text.isLowered = true
      ∧ Text.nextIsCased extension.toList = true := by
    revert extension
    decide +kernel
  exact Text.lower_file n hd.1 he.1 hd.2 he.2

def PathView.lowered {κ φ : Type} (v : PathView κ φ)
    (helpers : v.form "ajaxpipe" ≠ v.form "makequery") : PathView κ φ where
  view path := v.view (Text.lower path)
  form n := v.form (Text.lowerStem n)
  ends := v.ends
  file_iff := by
    intro directory extension hdirectory hextension m n
    rw [lower_filePath hdirectory hextension, lower_filePath hdirectory hextension]
    exact v.file_iff hdirectory hextension _ _
  ends_file := by
    intro directory extension hdirectory hextension n
    rw [lower_filePath hdirectory hextension]
    exact v.ends_file hdirectory hextension _
  ends_index := by
    have hlower : Text.lower "index.js" = "index.js" := by decide +kernel
    rw [hlower]
    exact v.ends_index
  ends_manifest := by
    have hlower : Text.lower "package.json" = "package.json" := by decide +kernel
    rw [hlower]
    exact v.ends_manifest
  helpers_apart := by
    have hrequest : Text.lowerStem Generated.request = "ajaxpipe" := by decide +kernel
    have hmakeQuery : Text.lowerStem Generated.makeQuery = "makequery" := by decide +kernel
    rw [hrequest, hmakeQuery]
    exact helpers

end ClientGen.Package
