import ClientGen.CommandLine.Check
import ClientGen.Run
import ClientGen.Proofs.Package.Assembly
import ClientGen.Proofs.Package.Files
import ClientGen.Proofs.Package.Writing

/-! # The outcome of a run

  A run goes through stages. Each of them hands something on to the next or ends the run, and only
  the last one changes the disk.

  * **`Preparation`**: the stages before the last, with one rule for each way in which one of them
    ends the run, and one for the package that they make together.
  * **`Outcome`**: a run is refused before anything is written, stops at the first file that cannot
    be written, or writes every file.

  `run_outcome` says that the outcome of a run is the one that these rules give, and no other. The
  check of arguments that is made in front of a run is no part of it, and has rules of its own
  (`CommandLine.Checked`). -/

namespace ClientGen

/-! ## Checks in front of a run -/

namespace CommandLine

/-- What the check of arguments comes to. -/
inductive Checked (args : CommandLine) (st : Storage) : Except ArgumentError Unit → Prop where
  | inputMissing :
      st.lookup? args.input = none → Checked args st (.error (.inputMissing args.input))
  | inputNotAFile {entries : List (String × StorageEntry)} :
      st.lookup? args.input = some (.directory entries) →
      Checked args st (.error (.inputNotAFile args.input))
  | emptyName {content : ByteArray} :
      st.lookup? args.input = some (.file content) → Text.isAllBlank args.name = true →
      Checked args st (.error .emptyName)
  | passed {content : ByteArray} :
      st.lookup? args.input = some (.file content) → Text.isAllBlank args.name = false →
      Checked args st (.ok ())

section

variable {args : CommandLine} {st : Storage}

theorem Checked.run_eq {r : Except ArgumentError Unit} (h : Checked args st r) :
    (args.check Storage.disk).run st = pure (r, st) := by
  unfold check Storage.disk
  cases h with
  | inputMissing hinput => simp [hinput]
  | inputNotAFile hinput => simp [hinput]
  | emptyName hinput hname => simp [hinput, hname]
  | passed hinput hname => simp [hinput, hname]

theorem exists_checked (args : CommandLine) (st : Storage) : ∃ r, Checked args st r := by
  cases hinput : st.lookup? args.input with
  | none => exact ⟨_, .inputMissing hinput⟩
  | some entry =>
    cases entry with
    | directory _ => exact ⟨_, .inputNotAFile hinput⟩
    | file _ =>
      cases hname : Text.isAllBlank args.name with
      | true => exact ⟨_, .emptyName hinput hname⟩
      | false => exact ⟨_, .passed hinput hname⟩

/-- The check comes to what the rules name, and to nothing else. It leaves the disk as it is. -/
theorem check_eq_iff {r : Except ArgumentError Unit} {later : Storage} :
    (args.check Storage.disk).run st = pure (r, later) ↔ Checked args st r ∧ later = st := by
  constructor
  · intro h
    obtain ⟨r', hchecked⟩ := exists_checked args st
    rw [hchecked.run_eq] at h
    obtain ⟨rfl, rfl⟩ := Prod.mk.inj h
    exact ⟨hchecked, rfl⟩
  · rintro ⟨hchecked, rfl⟩
    exact hchecked.run_eq

end

end CommandLine

namespace Run

open Package (attempt Written Writing)

/-! ## Stages before writing -/

def HasText (args : CommandLine) (st : Storage) (text : String) : Prop :=
  ∃ content, st.read? args.input = some content ∧ String.fromUTF8? content = some text

def HasDocument (args : CommandLine) (st : Storage) (d : Document) : Prop :=
  ∃ text v, HasText args st text ∧ (Format.ofPath args.input).read text = .ok v
    ∧ Document.decode v = .ok d

/-- What the stages before writing come to. -/
inductive Preparation (args : CommandLine) (st : Storage) : Except RunError Package → Prop where
  /-- Nothing lies where the input is looked for, or a directory, or a file that may not be read. -/
  | unreadable :
      st.read? args.input = none → Preparation args st (.error (.unreadable args.input))
  /-- The content of the input is no text. -/
  | notText {content : ByteArray} :
      st.read? args.input = some content → String.fromUTF8? content = none →
      Preparation args st (.error (.unreadable args.input))
  /-- The text is not of its format. -/
  | malformed {text : String} {e : LoadError} :
      HasText args st text → (Format.ofPath args.input).read text = .error e →
      Preparation args st (.error (.load args.input e))
  | layout {text : String} {v : Json} {cause : Cause} :
      HasText args st text → (Format.ofPath args.input).read text = .ok v →
      Document.decode v = .error cause →
      Preparation args st (.error (.load args.input (.layout cause)))
  | invalidOperation {d : Document} {e : InvalidOperation} :
      HasDocument args st d → d.operations = .error e →
      Preparation args st (.error (.generate (.invalidOperation e)))
  | defect {d : Document} {operations : List Operation} {e : Defect} :
      HasDocument args st d → d.operations = .ok operations →
      (Package.assemble operations d.definitions).result = .error e →
      Preparation args st (.error (.generate (.defect e)))
  | made {d : Document} {operations : List Operation} {p : Package} :
      HasDocument args st d → d.operations = .ok operations →
      (Package.assemble operations d.definitions).result = .ok p →
      Preparation args st (.ok p)

section

variable {args : CommandLine} {st : Storage}

/-- The package that a run makes of its input. -/
def preparedPackage (args : CommandLine) (st : Storage) : Logged RunError Package :=
  package args.input (st.read? args.input)

theorem result_preparedPackage :
    (preparedPackage args st).result
      = (document args.input (st.read? args.input)).result.bind fun d =>
          d.compile.result.mapError .generate := by
  unfold preparedPackage package
  rw [Logged.result_bind]
  rfl

theorem result_document {content : ByteArray} {text : String}
    (h : String.fromUTF8? content = some text) :
    (document args.input (some content)).result
      = (((Format.ofPath args.input).read text).bind fun v =>
          (Document.decode v).mapError .layout).mapError (.load args.input) := by
  unfold document Document.load Logged.mapError
  rw [Option.bind_some, h]
  simp only [Logged.result_bind, Logged.result_ofExcept, Logged.result_tell]
  rfl

theorem result_of_hasText {text : String} (h : HasText args st text) :
    (preparedPackage args st).result
      = ((((Format.ofPath args.input).read text).bind fun v =>
          (Document.decode v).mapError .layout).mapError (.load args.input)).bind fun d =>
            d.compile.result.mapError .generate := by
  obtain ⟨content, hcontent, htext⟩ := h
  rw [result_preparedPackage, hcontent, result_document htext]

theorem result_of_hasDocument {d : Document} (h : HasDocument args st d) :
    (preparedPackage args st).result
      = ((d.operations.mapError .invalidOperation).bind fun operations =>
          (Package.assemble operations d.definitions).result.mapError .defect).mapError
            .generate := by
  obtain ⟨text, v, htext, hread, hdecode⟩ := h
  rw [result_of_hasText htext, hread, Except.bind, hdecode, ← Package.result_documentCompile]
  rfl

/-- The stages come to what a rule says. -/
theorem Preparation.result_eq {r : Except RunError Package} (h : Preparation args st r) :
    (preparedPackage args st).result = r := by
  -- Each rule names what the stages before came to; the next one is evaluated on that.
  cases h with
  | unreadable hnone =>
    rw [result_preparedPackage, hnone]
    rfl
  | notText hcontent htext =>
    rw [result_preparedPackage, hcontent, document, Option.bind_some, htext]
    rfl
  | malformed htext hread =>
    rw [result_of_hasText htext, hread]
    rfl
  | layout htext hread hdecode =>
    rw [result_of_hasText htext, hread, Except.bind, hdecode]
    rfl
  | invalidOperation hdocument hoperations =>
    rw [result_of_hasDocument hdocument, hoperations]
    rfl
  | defect hdocument hoperations hassembled =>
    rw [result_of_hasDocument hdocument, hoperations, Except.mapError, Except.bind, hassembled]
    rfl
  | made hdocument hoperations hassembled =>
    rw [result_of_hasDocument hdocument, hoperations, Except.mapError, Except.bind, hassembled]
    rfl

/-- One of the rules applies. -/
theorem exists_preparation (args : CommandLine) (st : Storage) : ∃ r, Preparation args st r := by
  -- Each stage ends the run or hands on what the next one looks at.
  cases hinput : st.read? args.input with
  | none => exact ⟨_, .unreadable hinput⟩
  | some content =>
    cases hcontent : String.fromUTF8? content with
    | none => exact ⟨_, .notText hinput hcontent⟩
    | some text =>
      have htext : HasText args st text := ⟨content, hinput, hcontent⟩
      cases hread : (Format.ofPath args.input).read text with
      | error _ => exact ⟨_, .malformed htext hread⟩
      | ok v =>
        cases hdecode : Document.decode v with
        | error _ => exact ⟨_, .layout htext hread hdecode⟩
        | ok d =>
          have hdocument : HasDocument args st d := ⟨text, v, htext, hread, hdecode⟩
          cases hoperations : d.operations with
          | error _ => exact ⟨_, .invalidOperation hdocument hoperations⟩
          | ok operations =>
            cases hassembled : (Package.assemble operations d.definitions).result with
            | error _ => exact ⟨_, .defect hdocument hoperations hassembled⟩
            | ok _ => exact ⟨_, .made hdocument hoperations hassembled⟩

/-- The stages before writing come to what the rules name, and to nothing else. -/
theorem preparedPackage_eq_iff {r : Except RunError Package} :
    (preparedPackage args st).result = r ↔ Preparation args st r := by
  constructor
  · rintro rfl
    obtain ⟨r, hr⟩ := exists_preparation args st
    rwa [hr.result_eq]
  · exact Preparation.result_eq

/-- Of the arguments only the input is looked at before writing. A name that is blank stops nothing
    here. -/
theorem Preparation.of_input_eq {args' : CommandLine} {r : Except RunError Package}
    (h : Preparation args st r) (hinput : args'.input = args.input) : Preparation args' st r := by
  have hpackage : preparedPackage args' st = preparedPackage args st := by
    unfold preparedPackage
    rw [hinput]
  rw [← preparedPackage_eq_iff, hpackage]
  exact h.result_eq

end

/-! ## Whole runs -/

/-- The report of a package that is written as a whole. -/
def fullReport (p : Package) (info : PackageInfo) : WriteReport where
  files := (p.files info).map OutputFile.path
  operations := p.operations.length
  definitions := p.definitions.length

/-- What comes of a run: the disk afterwards, and the report or the failure. -/
inductive Outcome (args : CommandLine) (build : Option String) (st : Storage) :
    Storage → Except RunError WriteReport → Prop where
  /-- No package can be made. Nothing is written. -/
  | refused {e : RunError} :
      Preparation args st (.error e) → Outcome args build st st (.error e)
  /-- A file of the package cannot be written. The files in front of it were, and none behind it is
      tried. -/
  | stopped {p : Package} {before after : List OutputFile} {file : OutputFile}
      {middle later : Storage} {e : WriteError} :
      Preparation args st (.ok p) →
      p.files (args.packageInfo build) = before ++ file :: after →
      Written args.output before st middle →
      attempt args.output file middle = (later, .error e) →
      Outcome args build st later (.error (.write e))
  /-- All files of the package are written. -/
  | finished {p : Package} {later : Storage} :
      Preparation args st (.ok p) →
      Written args.output (p.files (args.packageInfo build)) st later →
      Outcome args build st later (.ok (fullReport p (args.packageInfo build)))

section

attribute [local irreducible] Storage.write Disk.write

variable {args : CommandLine} {st : Storage}

/-- Reading leaves the disk as it is; what the run writes is the package that was made before. -/
theorem run_eq (args : CommandLine) (build : Option String) (st : Storage) :
    run args build st
      = match preparedPackage args st with
        | ⟨notices, .error e⟩ => (st, ⟨notices, .error e⟩)
        | ⟨notices, .ok p⟩ =>
          ((p.write (args.packageInfo build) args.output st).1,
            ⟨notices, (p.write (args.packageInfo build) args.output st).2.mapError .write⟩) := by
  have hread : (Storage.disk.read? args.input).run st = pure (st.read? args.input, st) := rfl
  unfold run preparedPackage
  rw [runOn, StateT.run_bind, hread, pure_bind]
  match package args.input (st.read? args.input) with
  | ⟨_, .error _⟩ => rfl
  | ⟨_, .ok _⟩ => rfl

theorem run_of_error (build : Option String) {e : RunError}
    (h : (preparedPackage args st).result = .error e) :
    (run args build st).1 = st ∧ (run args build st).2.result = .error e := by
  have hpackage : preparedPackage args st = ⟨(preparedPackage args st).notices, .error e⟩ := by
    rw [← h]
  rw [run_eq, hpackage]
  exact ⟨rfl, rfl⟩

theorem run_of_ok (build : Option String) {p : Package} {later : Storage}
    {written : Except WriteError (List String)} (h : (preparedPackage args st).result = .ok p)
    (hwritten : Package.writeFiles args.output (p.files (args.packageInfo build)) st
      = (later, written)) :
    (run args build st).1 = later
      ∧ (run args build st).2.result
        = (written.map fun files =>
            ⟨files, p.operations.length, p.definitions.length⟩).mapError .write := by
  have hpackage : preparedPackage args st = ⟨(preparedPackage args st).notices, .ok p⟩ := by
    rw [← h]
  rw [run_eq, hpackage]
  simp only [Package.write_eq, hwritten, and_self]

/-- The outcome that the files of a package lead to. -/
theorem outcome_of_writing {build : Option String} {p : Package} {later : Storage}
    {written : Except WriteError (List String)} (h : Preparation args st (.ok p))
    (hwriting : Writing args.output (p.files (args.packageInfo build)) st later written) :
    Outcome args build st later ((written.map fun files =>
      ⟨files, p.operations.length, p.definitions.length⟩).mapError .write) := by
  cases hwriting with
  | stopped hsplit hbefore hfailing => exact .stopped h hsplit hbefore hfailing
  | finished hfinished => exact .finished h hfinished

/-- What comes of a run is what the rules name, and nothing else. -/
theorem run_eq_iff {build : Option String} {later : Storage} {r : Except RunError WriteReport} :
    (run args build st).1 = later ∧ (run args build st).2.result = r
      ↔ Outcome args build st later r := by
  constructor
  · rintro ⟨rfl, rfl⟩
    cases hpackage : (preparedPackage args st).result with
    | error e =>
      obtain ⟨hstorage, hresult⟩ := run_of_error build hpackage
      rw [hstorage, hresult]
      exact .refused (preparedPackage_eq_iff.mp hpackage)
    -- From here on the run is the work on the files.
    | ok p =>
      obtain ⟨hstorage, hresult⟩ := run_of_ok build hpackage rfl
      rw [hstorage, hresult]
      exact outcome_of_writing (preparedPackage_eq_iff.mp hpackage)
        (Package.writing_writeFiles _ _ _)
  · intro h
    cases h with
    | refused hrefused => exact run_of_error build (preparedPackage_eq_iff.mpr hrefused)
    | stopped hmade hsplit hbefore hfailing =>
      exact run_of_ok build (preparedPackage_eq_iff.mpr hmade)
        (Package.writeFiles_eq_iff.mpr (.stopped hsplit hbefore hfailing))
    | finished hmade hwritten =>
      exact run_of_ok build (preparedPackage_eq_iff.mpr hmade)
        (Package.writeFiles_eq_iff.mpr (.finished hwritten))

end

/-- Only a failure to write leaves something behind. -/
theorem Outcome.storage_eq {args : CommandLine} {build : Option String} {st later : Storage}
    {e : RunError} (h : Outcome args build st later (.error e)) (hbefore : ∀ w, e ≠ .write w) :
    later = st := by
  cases h with
  | refused => rfl
  | stopped => exact absurd rfl (hbefore _)

theorem length_fullReport (p : Package) (info : PackageInfo) :
    (fullReport p info).files.length = 4 + 2 * p.operations.length + p.definitions.length := by
  have hoperations : (p.operations.flatMap fun u =>
      [Package.typedPath u.name, Package.plainPath u.name]).length = 2 * p.operations.length := by
    rw [List.length_flatMap]
    simp [Nat.mul_comm]
  unfold fullReport
  rw [Package.paths_files, List.length_append, List.length_append, List.length_append, hoperations,
    List.length_map]
  show 2 + 2 * p.operations.length + p.definitions.length + 2 = _
  omega

/-- **The outcome of a run**, for all arguments and whatever lies on the disk: it is the one that
    the rules of `Outcome` give, and no other. So whatever goes wrong before writing leaves the disk
    as it was, and otherwise the files of the package are written in their order up to the first
    that cannot be written. The order is fixed: the helpers, the two sources of each operation, the
    source of each definition, the entry point and the manifest. -/
theorem run_outcome (args : CommandLine) (build : Option String) (st : Storage) :
    (∀ later r, (run args build st).1 = later ∧ (run args build st).2.result = r
        ↔ Outcome args build st later r)
      ∧ (∀ e, (run args build st).2.result = .error e → (∀ w, e ≠ .write w) →
          (run args build st).1 = st)
      ∧ ∀ (p : Package) (info : PackageInfo),
          (fullReport p info).files
              = [Package.helperPath Generated.request, Package.helperPath Generated.makeQuery]
                ++ p.operations.flatMap
                  (fun u => [Package.typedPath u.name, Package.plainPath u.name])
                ++ p.definitions.map (fun u => Package.definitionPath u.name)
                ++ ["index.js", "package.json"]
            ∧ (fullReport p info).files.length
              = 4 + 2 * p.operations.length + p.definitions.length := by
  refine ⟨?outcome, ?untouched, ?order⟩
  case outcome =>
    intro later r
    exact run_eq_iff
  case untouched =>
    intro e hfailed hbefore
    have houtcome : Outcome args build st (run args build st).1 (.error e) :=
      run_eq_iff.mp ⟨rfl, hfailed⟩
    exact houtcome.storage_eq hbefore
  case order =>
    intro p info
    exact ⟨Package.paths_files p info, length_fullReport p info⟩

/-- A disk with a document of the given paths, and with a directory for the package. -/
def diskOf (paths : String) (output : List (String × StorageEntry)) : Storage where
  entries :=
    [("api.json",
       .file ("\x7b\"swagger\":\"2.0\",\"paths\":\x7b" ++ paths ++ "\x7d\x7d").toUTF8),
     ("out", .directory output)]

/-- A disk on which two operations of the document share an id. -/
def sharedIdDisk : Storage :=
  diskOf ("\"/\":\x7b\"get\":\x7b\"operationId\":\"ping\"\x7d,"
    ++ "\"put\":\x7b\"operationId\":\"ping\"\x7d\x7d") []

def blockedDisk : Storage :=
  diskOf "\"/\":\x7b\"get\":\x7b\"operationId\":\"ping\"\x7d\x7d"
    [("src", .file "kept".toUTF8)]

/-- The arguments of a run on these disks. A run does not mind that the name is blank. -/
def diskArguments : CommandLine where
  input := "api.json"
  output := "out"
  name := " "

/-- On the first disk nothing happens, and on the second the helpers are written. -/
theorem run_outcome_blocked :
    (run diskArguments none sharedIdDisk).2.result
        = .error (.generate (.defect (.repeatedIds ["ping"])))
      ∧ (run diskArguments none sharedIdDisk).1 = sharedIdDisk
      ∧ Outcome diskArguments none blockedDisk (run diskArguments none blockedDisk).1
          (.error (.write (.directory "out/src")))
      ∧ ((run diskArguments none blockedDisk).1.filesBelow "out").map Prod.fst
        = [["src"], ["helpers", "AjaxPipe.js"], ["helpers", "makeQuery.js"]] := by
  have hshared : (run diskArguments none sharedIdDisk).2.result
      = .error (.generate (.defect (.repeatedIds ["ping"]))) := by decide +kernel
  have hblocked : (run diskArguments none blockedDisk).2.result
        = .error (.write (.directory "out/src"))
      ∧ ((run diskArguments none blockedDisk).1.filesBelow "out").map Prod.fst
        = [["src"], ["helpers", "AjaxPipe.js"], ["helpers", "makeQuery.js"]] := by decide +kernel
  have hbefore : ∀ w, RunError.generate (.defect (.repeatedIds ["ping"])) ≠ .write w := by
    intro w h
    cases h
  exact ⟨hshared, (run_outcome diskArguments none sharedIdDisk).2.1 _ hshared hbefore,
    ((run_outcome diskArguments none blockedDisk).1 _ _).mp ⟨rfl, hblocked.1⟩, hblocked.2⟩

-- On a disk without room the first helper stays empty, and nothing else is tried.
example :
    let full : Storage :=
      { diskOf "\"/\":\x7b\"get\":\x7b\"operationId\":\"ping\"\x7d\x7d" [] with
        medium := { takes := fun _ _ _ => .part 0 } }
    (run diskArguments none full).2.result = .error (.write (.file "out/helpers/AjaxPipe.js"))
      ∧ (run diskArguments none full).1.filesBelow "out"
        = [(["helpers", "AjaxPipe.js"], ByteArray.empty)] := by decide +kernel

end Run

end ClientGen
