import ClientGen.Package.Write

/-! # Writing one file after the other

  The files of a package are written in their order, each on the disk that the one before it has
  left, and the first that cannot be written ends the work.

  * **`Written`**: files that were all written, one step for each.
  * **`Writing`**: what comes of a list of files: some file cannot be written and none behind it is
    tried, or all of them are written.

  `writeFiles_eq_iff` says that writing comes to what these rules name. -/

namespace ClientGen.Package

/-- The attempt to write one file below a directory. -/
def attempt (output : String) (file : OutputFile) (st : Storage) :
    Storage × Except WriteError Unit :=
  st.write (PathText.below output file.path) file.content.toUTF8

/-- Files are written one after the other, each on the disk that the one before it has left. -/
inductive Written (output : String) : List OutputFile → Storage → Storage → Prop where
  | nil {st : Storage} : Written output [] st st
  | cons {file : OutputFile} {rest : List OutputFile} {st next later : Storage} :
      attempt output file st = (next, .ok ()) → Written output rest next later →
      Written output (file :: rest) st later

/-- What comes of writing files in their order. -/
inductive Writing (output : String) (files : List OutputFile) (st : Storage) :
    Storage → Except WriteError (List String) → Prop where
  /-- The files in front of one were written, that one cannot be, and none behind it is tried. -/
  | stopped {before after : List OutputFile} {file : OutputFile} {middle later : Storage}
      {e : WriteError} :
      files = before ++ file :: after → Written output before st middle →
      attempt output file middle = (later, .error e) →
      Writing output files st later (.error e)
  /-- All files were written. -/
  | finished {later : Storage} :
      Written output files st later →
      Writing output files st later (.ok (files.map OutputFile.path))

/-- Writing on a disk that is a value is what `Storage.write` says. -/
theorem run_write (path : String) (content : ByteArray) (st : Storage) :
    (Storage.disk.write path content).run st = (st.write path content).swap :=
  (Prod.swap_swap _).symm

section

-- What a single write does to the disk is of no interest here and takes long to unfold.
attribute [local irreducible] Storage.write Disk.write

variable {output : String}

theorem writeFiles_nil (output : String) (st : Storage) :
    writeFiles output [] st = (st, .ok []) := rfl

theorem writeFiles_cons (output : String) (file : OutputFile) (rest : List OutputFile)
    (st : Storage) :
    writeFiles output (file :: rest) st
      = match attempt output file st with
        | (later, .error e) => (later, .error e)
        | (later, .ok ()) =>
          ((writeFiles output rest later).1,
            (writeFiles output rest later).2.map (file.path :: ·)) := by
  unfold writeFiles attempt
  rw [writeFilesOn, StateT.run_bind, run_write]
  match st.write (PathText.below output file.path) file.content.toUTF8 with
  | (later, .error e) => rfl
  | (later, .ok ()) => rfl

theorem writeFiles_of_written {file : OutputFile} {rest : List OutputFile}
    {st next later : Storage} {written : Except WriteError (List String)}
    (hfile : attempt output file st = (next, .ok ()))
    (hrest : writeFiles output rest next = (later, written)) :
    writeFiles output (file :: rest) st = (later, written.map (file.path :: ·)) := by
  rw [writeFiles_cons, hfile]
  simp only [hrest]

theorem writeFiles_of_failing {file : OutputFile} {st later : Storage} {e : WriteError}
    (hfile : attempt output file st = (later, .error e)) (rest : List OutputFile) :
    writeFiles output (file :: rest) st = (later, .error e) := by
  rw [writeFiles_cons, hfile]

/-- Behind files that were written the work goes on with what is left, on the disk that they have
    left. -/
theorem writeFiles_append {before rest : List OutputFile} {st middle later : Storage}
    {written : Except WriteError (List String)} (h : Written output before st middle)
    (hrest : writeFiles output rest middle = (later, written)) :
    writeFiles output (before ++ rest) st
      = (later, written.map (before.map OutputFile.path ++ ·)) := by
  induction h with
  | nil =>
    rw [List.nil_append, hrest]
    cases written <;> rfl
  | cons hfile _ ih =>
    rw [List.cons_append, writeFiles_of_written hfile (ih hrest)]
    cases written <;> rfl

/-- A file that is written changes nothing about what comes of those behind it. -/
theorem Writing.cons {file : OutputFile} {rest : List OutputFile} {st next later : Storage}
    {written : Except WriteError (List String)}
    (hfile : attempt output file st = (next, .ok ()))
    (h : Writing output rest next later written) :
    Writing output (file :: rest) st later (written.map (file.path :: ·)) := by
  cases h with
  | stopped hsplit hbefore hfailing =>
    exact .stopped (congrArg (file :: ·) hsplit) (.cons hfile hbefore) hfailing
  | finished hrest => exact .finished (.cons hfile hrest)

theorem writing_writeFiles (output : String) (files : List OutputFile) :
    ∀ st, Writing output files st (writeFiles output files st).1
      (writeFiles output files st).2 := by
  -- Every file but the first is written on the disk that the file before it has left.
  induction files with
  | nil =>
    intro st
    exact .finished .nil
  | cons file rest ih =>
    intro st
    match hattempt : attempt output file st with
    | (next, .error e) =>
      rw [writeFiles_of_failing hattempt]
      exact .stopped (List.nil_append _).symm .nil hattempt
    | (next, .ok ()) =>
      rw [writeFiles_of_written hattempt rfl]
      exact .cons hattempt (ih next)

/-- If the work ends well, it tells the paths of all files. -/
theorem writeFiles_eq_ok {files : List OutputFile} {st : Storage} {paths : List String}
    (h : (writeFiles output files st).2 = .ok paths) : paths = files.map OutputFile.path := by
  have hwriting := writing_writeFiles output files st
  rw [h] at hwriting
  cases hwriting with
  | finished => rfl

/-- Writing files comes to what the rules name, and to nothing else. -/
theorem writeFiles_eq_iff {files : List OutputFile} {st later : Storage}
    {written : Except WriteError (List String)} :
    writeFiles output files st = (later, written)
      ↔ Writing output files st later written := by
  constructor
  · intro h
    have hwriting := writing_writeFiles output files st
    rwa [h] at hwriting
  · intro h
    cases h with
    | stopped hsplit hbefore hfailing =>
      -- The files in front were written, so the work comes to the one that cannot be.
      rw [hsplit, writeFiles_append hbefore (writeFiles_of_failing hfailing _)]
      rfl
    | finished hwritten =>
      have hall := writeFiles_append hwritten (writeFiles_nil output later)
      rw [List.append_nil] at hall
      rw [hall, Except.map, List.append_nil]

/-- Writing a package is writing its files. -/
theorem write_eq (p : Package) (info : PackageInfo) (output : String) (st : Storage) :
    p.write info output st
      = ((writeFiles output (p.files info) st).1,
        (writeFiles output (p.files info) st).2.map fun files =>
          ⟨files, p.operations.length, p.definitions.length⟩) := rfl

end

end ClientGen.Package
