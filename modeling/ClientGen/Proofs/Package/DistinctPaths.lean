import ClientGen.Proofs.Package.Assembly
import ClientGen.Proofs.Package.PathView

/-! # Distinct paths

  If two files of a package have the same path, the one that is written later replaces the other. A
  document is checked before, but the checks do not settle the matter:

  * **Ids** are compared letter by letter, while disks may take capital letters for small ones, and
    all of them pass over lone dots.
  * **Names of definitions** are compared in lower case, but each on its own. There a sigma at the
    end is at the end of a word; in the name of a file, with an extension behind it, it is not.

  `distinctPaths_of_write` says which names leave the paths distinct, in each view of paths. -/

namespace ClientGen.Package

/-- When the paths of the files of a package are distinct, given the ids of its operations and the
    names of its definitions. -/
structure DistinctPaths (ids names files : List String) : Prop where
  /-- As texts: always. -/
  texts : files.Nodup
  /-- As texts in lower case: exactly if ids and names are, each with an extension behind it. -/
  lower_texts : (files.map Text.lower).Nodup
    ↔ (ids.map Text.lowerStem).Nodup ∧ (names.map Text.lowerStem).Nodup
  /-- As steps: exactly if ids and names are. -/
  steps : (files.map PathText.steps).Nodup
    ↔ (ids.map PathText.nameSteps).Nodup ∧ (names.map PathText.nameSteps).Nodup
  /-- As steps in lower case. -/
  lower_steps : (files.map fun path => PathText.steps (Text.lower path)).Nodup
    ↔ (ids.map fun id => PathText.nameSteps (Text.lowerStem id)).Nodup
      ∧ (names.map fun n => PathText.nameSteps (Text.lowerStem n)).Nodup
  /-- Names of definitions are distinct in lower case unless a capital sigma is in one of them. -/
  names : (∀ n ∈ names, 'Σ' ∉ n.toList) → (names.map Text.lowerStem).Nodup

/-- **Distinct paths**: no two files of a package that was written have one path, letter by letter.
    As a disk follows paths, and on a disk that does not tell capital letters from small ones, they
    have distinct paths exactly if the names of the document are distinct in the same way. -/
theorem distinctPaths_of_write {d : Document} {p : Package} {info : PackageInfo}
    {output : String} {st : Storage} {report : WriteReport}
    (compiled : d.compile.result = .ok p)
    (written : (p.write info output st).2 = .ok report) :
    ∃ operations, d.operations = .ok operations
      ∧ DistinctPaths (operations.map Operation.id) (OrderedMap.keys d.definitions)
          report.files := by
  obtain ⟨operations, hoperations, hassembled⟩ := assembled_of_compile compiled
  obtain ⟨hids, hnames⟩ := nodup_of_assemble hassembled
  obtain rfl := assemble_eq_ok_imp hassembled
  rw [files_of_write written]
  refine ⟨operations, hoperations, ?_⟩
  have hoperationNames : (packageOf operations d.definitions).operations.map SourceUnit.name
      = operations.map Operation.id := by
    simp only [packageOf, List.map_map]
    rfl
  have hdefinitionNames : (packageOf operations d.definitions).definitions.map SourceUnit.name
      = OrderedMap.keys d.definitions := by
    simp only [packageOf, List.map_map]
    rfl
  -- One statement for all views; the fields are its instances.
  have hview : ∀ {κ φ : Type} (v : PathView κ φ),
      ((((packageOf operations d.definitions).files info).map OutputFile.path).map v.view).Nodup
        ↔ ((operations.map Operation.id).map v.form).Nodup
          ∧ ((OrderedMap.keys d.definitions).map v.form).Nodup := by
    intro κ φ v
    rw [v.nodup_paths_iff, hoperationNames, hdefinitionNames]
  refine ⟨?texts, ?lowerTexts, hview stepView, ?lowerSteps, ?names⟩
  case texts =>
    have htexts := hview textView
    simp only [textView, List.map_id] at htexts
    exact htexts.mpr ⟨hids, hnames.of_map⟩
  case lowerTexts =>
    have hlowered := hview (textView.lowered (by decide))
    simpa only [PathView.lowered, textView, id] using hlowered
  case lowerSteps =>
    have hlowered := hview (stepView.lowered (by decide))
    simpa only [PathView.lowered, stepView] using hlowered
  case names =>
    -- Without a capital sigma the check has compared the names as they stand in the paths.
    intro hsigma
    have hlower : (OrderedMap.keys d.definitions).map Text.lowerStem
        = (OrderedMap.keys d.definitions).map Text.lower :=
      List.map_congr_left fun n hn => Text.lowerStem_of_not_mem (hsigma n hn)
    rwa [hlower]

/-- A document with names that are paths themselves. -/
def nestedNames : Document where
  paths := [("/pets",
    [("get", .object [("operationId", .string "pets/list"), ("summary", .string "s")])])]
  definitions := [("Pet", Schema.ofKind "string"), ("pets/Tag", Schema.ofKind "string")]

theorem distinctPaths_nestedNames :
    ∃ p report, nestedNames.compile.result = .ok p
      ∧ (p.write ⟨"pets", "1.0.0"⟩ "out" {}).2 = .ok report
      ∧ (report.files.map PathText.steps).Nodup
      ∧ ∃ operations, nestedNames.operations = .ok operations
        ∧ DistinctPaths (operations.map Operation.id) (OrderedMap.keys nestedNames.definitions)
            report.files := by
  have hwritten : ∃ p report, nestedNames.compile.result = .ok p
      ∧ (p.write ⟨"pets", "1.0.0"⟩ "out" {}).2 = .ok report
      ∧ (report.files.map PathText.steps).Nodup :=
    exists_write_of_any (fun _ files => (files.map PathText.steps).Nodup) (by decide +kernel)
  obtain ⟨p, report, compiled, written, distinct⟩ := hwritten
  exact ⟨p, report, compiled, written, distinct, distinctPaths_of_write compiled written⟩

/-- Two operations whose ids differ in their capital letters only. -/
def caseOfIds : Document where
  paths := [("/pet",
    [("get", .object [("operationId", .string "getPet"), ("summary", .string "s")]),
     ("post", .object [("operationId", .string "getpet"), ("summary", .string "s")])])]

/-- Two definitions whose names differ in their capital letters only. The last letter of one of them
    is a capital sigma. -/
def caseOfSigma : Document where
  definitions := [("ΑΣ", Schema.ofKind "string"), ("ασ", Schema.ofKind "string")]

/-- Two operations whose ids differ in a step that leads nowhere. -/
def idleStep : Document where
  paths := [("/pet",
    [("get", .object [("operationId", .string "getPet"), ("summary", .string "s")]),
     ("post", .object [("operationId", .string "./getPet"), ("summary", .string "s")])])]

/-- All three documents are written, and in each of them two files have one path: on a disk that
    does not tell capital letters from small ones, or on any disk. -/
theorem sharedPaths_ofNames :
    (∃ p report, caseOfIds.compile.result = .ok p
      ∧ (p.write ⟨"pets", "1.0.0"⟩ "out" {}).2 = .ok report
      ∧ ¬ (report.files.map Text.lower).Nodup)
    ∧ (∃ p report, caseOfSigma.compile.result = .ok p
      ∧ (p.write ⟨"pets", "1.0.0"⟩ "out" {}).2 = .ok report
      ∧ ¬ (report.files.map Text.lower).Nodup)
    ∧ (∃ p report, idleStep.compile.result = .ok p
      ∧ (p.write ⟨"pets", "1.0.0"⟩ "out" {}).2 = .ok report
      ∧ ¬ (report.files.map PathText.steps).Nodup) := by
  refine ⟨?ids, ?sigma, ?idle⟩
  case ids =>
    exact exists_write_of_any (fun _ files => ¬ (files.map Text.lower).Nodup) (by decide +kernel)
  case sigma =>
    exact exists_write_of_any (fun _ files => ¬ (files.map Text.lower).Nodup) (by decide +kernel)
  case idle =>
    exact exists_write_of_any (fun _ files => ¬ (files.map PathText.steps).Nodup)
      (by decide +kernel)

end ClientGen.Package
