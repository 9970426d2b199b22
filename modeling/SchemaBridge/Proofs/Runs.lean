/-
Runs of the command line, against conversions.

A run that can read its script, and whose document can be written where it should go (`Surroundings.Takes`), exits with 0
exactly if `convert` has a document for it under the options that were given, and then the document, as it is, is all that
is written beside the notices: to standard output, or to the file or the device at the output path (`Delivered`). A script
without a document ends the run with 1 and nothing on standard output.

A run that fails at any point, in its arguments, in reading, in converting or in opening a file, leaves all files as they
were (`Outcome.Untouched`). There is one other way to fail: the file at the output path was opened, and took only a part
of the document. It is emptied by being opened, so this part is all that it holds then (`BrokenOff`).

Results:
- `finish_of_document`, `finish_of_error`: what becomes of a script that could be read.
- `change?_isSome_iff`: a change of the folder is reported exactly if there is one.
- `exit_of_takes`, `delivered_finish`: what becomes of a document that can be written.
- `untouched_or_brokenOff`: what a run that fails leaves behind.
- `run_agrees`: runs and conversions.
-/
import Mathlib.Tactic
import SchemaBridge.CommandLine.Run

namespace SchemaBridge.CommandLine

variable {w : Surroundings} {i : Invocation} {script document path : Text}

/-! ## From a script to an outcome -/

/-- the notices of a conversion that are shown -/
def Invocation.told (i : Invocation) (script : Text) : Text :=
  noticeText i.verbose (Ddl.readScript script).notices ++
    noticeText i.verbose (relate (Ddl.readScript script).schema).notices

theorem convert_eq_ok_iff {o : Model.Options} :
    convert o script = .ok document ↔
      (Ddl.readScript script).schema.isEmpty = false ∧ generate o (Ddl.readScript script).schema = document := by
  simp only [convert]
  cases (Ddl.readScript script).schema.isEmpty <;> simp

theorem finish_of_document (h : convert i.options script = .ok document) :
    i.finish (.ok script) =
      match i.output with
      | none => { stdout := document, stderr := i.told script }
      | some path => { stderr := i.told script, file := some (path, document) } := by
  obtain ⟨hschema, hdocument⟩ := convert_eq_ok_iff.1 h
  cases houtput : i.output <;>
    simp only [Invocation.finish, houtput, hschema, hdocument, Invocation.told, Bool.false_eq_true, if_false]

/-- a script without a document declares nothing -/
theorem isEmpty_of_error {o : Model.Options} {e : ConversionError} (h : convert o script = .error e) :
    (Ddl.readScript script).schema.isEmpty = true := by
  refine eq_true_of_ne_false fun hschema => ?_
  rw [convert_eq_ok_iff.2 ⟨hschema, rfl⟩] at h
  cases h

theorem finish_of_error {e : ConversionError} (h : convert i.options script = .error e) :
    i.finish (.ok script) =
      { exit := 1
        stderr := noticeText i.verbose (Ddl.readScript script).notices ++
          nothingText (Ddl.readScript script).skipped.length } := by
  simp only [Invocation.finish, isEmpty_of_error h, if_true]

/-! ## From an outcome to what is written -/

theorem deliver_of_no_file {o : Outcome} (h : o.file = none) (w : Surroundings) : o.deliver w = o := by
  rw [Outcome.deliver, h]

/-- a document can be written to a path: the path may be opened, and what is there takes the document as a whole -/
def Surroundings.Takes (w : Surroundings) (path document : Text) : Prop :=
  (w.write path document).failure? = none

/-- the document is taken, by a device or else by the file -/
def Writing.taken : Option Device → Writing
  | none => whole
  | some found => device found

theorem fill_of_takes {device : Option Device} (h : (w.fill path document device).failure? = none) :
    w.fill path document device = .taken device := by
  cases device with
  | none =>
    simp only [Surroundings.fill] at h ⊢
    cases hshort : w.shortage path document with
    | none => rfl
    | some part =>
      rw [hshort] at h
      cases h
  | some device =>
    cases device with
    | full => cases h
    | _ => rfl

/-- a document that can be written is taken by the device at its place, or else by the file -/
theorem write_of_takes {place : Place} (h : w.Takes path document) (hplace : w.folder.target path = .ok place) :
    w.write path document = .taken (Device.at? place) := by
  unfold Surroundings.Takes Surroundings.write at h
  rw [Surroundings.write]
  rw [hplace] at h ⊢
  cases hopen : w.unwritable path with
  | some cause =>
    rw [hopen] at h
    cases h
  | none =>
    rw [hopen] at h
    exact fill_of_takes h

/-- a file that is opened has a place -/
theorem exists_target_of_write {taken : Nat} {cause : Failure} (h : w.write path document = .cutShort taken cause) :
    ∃ place, w.folder.target path = .ok place := by
  unfold Surroundings.write at h
  cases hopen : w.unwritable path with
  | some cause => simp [hopen] at h
  | none =>
    cases hplace : w.folder.target path with
    | error cause => simp [hopen, hplace] at h
    | ok place => exact ⟨place, rfl⟩

/-! ## Files after a run -/

theorem bytesOf_injective : Function.Injective bytesOf := by
  intro s t h
  have hbytes : (String.ofList s).toByteArray = (String.ofList t).toByteArray := by
    rw [String.toByteArray_ofList, String.toByteArray_ofList, List.utf8Encode, List.utf8Encode]
    exact congrArg List.toByteArray h
  exact String.ofList_injective (String.toByteArray_inj.1 hbytes)

namespace Outcome

variable {o : Outcome} {f : Folder} {place : Place}

/-- every file is as it was before -/
def Untouched (o : Outcome) (f : Folder) : Prop :=
  ∀ place, o.bytesAfter? f place = f.bytes? place

/-- the file at a place holds these bytes, and every other file is as it was before -/
structure Leaves (o : Outcome) (f : Folder) (place : Place) (bytes : List UInt8) : Prop where
  there : o.bytesAfter? f place = some bytes
  elsewhere : ∀ other, other ≠ place → o.bytesAfter? f other = f.bytes? other

theorem untouched_of_opened? (h : o.opened? = none) : o.Untouched f := by
  intro place
  rw [bytesAfter?, h]

theorem leaves_of_opened? {bytes : List UInt8} (h : o.opened? = some (path, bytes)) (hplace : f.target path = .ok place) :
    o.Leaves f place bytes where
  there := by simp [bytesAfter?, h, hplace, Except.toOption]
  elsewhere other hother := by simp [bytesAfter?, h, hplace, Except.toOption, Ne.symm hother]

/-- **A change** of the folder is reported exactly if one of its files has other bytes than before. -/
theorem change?_isSome_iff (hcut : o.cut = none) :
    (o.change? f).isSome ↔ ∃ place, f.place <+: place ∧ o.bytesAfter? f place ≠ f.bytes? place := by
  cases hfile : o.file with
  | none =>
    have hopened : o.opened? = none := by
      rw [opened?, hcut, hfile]
      rfl
    have huntouched : o.Untouched f := untouched_of_opened? hopened
    simp [change?, hfile, huntouched _]
  | some output =>
    obtain ⟨path, document⟩ := output
    have hopened : o.opened? = some (path, bytesOf document) := by
      rw [opened?, hcut, hfile]
      rfl
    cases htarget : f.target path with
    | error cause => simp [change?, hfile, Folder.change?, bytesAfter?, hopened, htarget, Except.toOption]
    | ok target =>
      have hleaves : o.Leaves f target (bytesOf document) := leaves_of_opened? hopened htarget
      have hbytes : f.bytes? target = some (bytesOf document) ↔ f.file? target = some document := by
        rw [Folder.bytes?, ← Option.map_some, (Option.map_injective bytesOf_injective).eq_iff]
      calc (o.change? f).isSome = true
        _ ↔ f.place <+: target ∧ f.file? target ≠ some document := by
          simp only [change?, hfile, Option.bind_some, Folder.change?, htarget]
          rw [apply_ite Option.isSome]
          simp
        _ ↔ f.place <+: target ∧ o.bytesAfter? f target ≠ f.bytes? target := by
          rw [hleaves.there, ne_comm (a := some (bytesOf document)), ne_eq, ne_eq, hbytes]
        _ ↔ ∃ place, f.place <+: place ∧ o.bytesAfter? f place ≠ f.bytes? place := by
          constructor
          · exact fun h => ⟨target, h⟩
          · rintro ⟨place, hinside, hchanged⟩
            obtain rfl : place = target := by_contra fun hother => hchanged (hleaves.elsewhere place hother)
            exact ⟨hinside, hchanged⟩

end Outcome

/-! ## Runs and conversions -/

/-- what becomes of the document of a conversion -/
structure Delivered (w : Surroundings) (i : Invocation) (script document : Text) (o : Outcome) : Prop where
  /-- without an output path it is what stands on standard output -/
  stdout_eq : i.output = none → o.stdout = document ∧ o.stderr = i.told script ∧ o.Untouched w.folder
  /-- a file takes it, and standard output takes nothing -/
  file_eq : ∀ path place, i.output = some path → w.folder.target path = .ok place → Device.at? place = none →
    o.stdout = [] ∧ o.stderr = i.told script ∧ o.Leaves w.folder place (bytesOf document)
  /-- a device takes it; standard output takes nothing unless it is the device -/
  device_eq : ∀ path place device, i.output = some path → w.folder.target path = .ok place →
    Device.at? place = some device →
      o.stdout = (if device = .stdout then document else []) ∧
      o.stderr = i.told script ++ (if device = .stderr then document else []) ∧ o.Untouched w.folder
  /-- a change of the folder is reported exactly if one of its files has other bytes than before -/
  change_iff : (o.change? w.folder).isSome ↔
    ∃ place, w.folder.place <+: place ∧ o.bytesAfter? w.folder place ≠ w.folder.bytes? place

/-- the file at the output path was opened for the document and took only a part of it, and this part is all that it
holds -/
structure BrokenOff (w : Surroundings) (i : Invocation) (script : Text) (o : Outcome) : Prop where
  exit_eq : o.exit = 1
  stdout_eq : o.stdout = []
  part : ∃ document path place taken cause,
    convert i.options script = .ok document ∧ i.output = some path ∧ w.folder.target path = .ok place ∧
      w.write path document = .cutShort taken cause ∧
      o.stderr = i.told script ++ failureText ("Failed to write ".toList ++ path) cause ∧
      o.Leaves w.folder place ((bytesOf document).take taken)

theorem deliver_of_no_output (hdocument : convert i.options script = .ok document) (houtput : i.output = none) :
    (i.finish (.ok script)).deliver w = { stdout := document, stderr := i.told script } := by
  rw [finish_of_document hdocument, houtput, deliver_of_no_file rfl]

theorem deliver_of_output (hdocument : convert i.options script = .ok document) (houtput : i.output = some path) :
    (i.finish (.ok script)).deliver w =
      match w.write path document with
      | .refused cause =>
        { exit := 1, stderr := i.told script ++ failureText ("Failed to write ".toList ++ path) cause }
      | .device device =>
        { stdout := if device = .stdout then document else []
          stderr := i.told script ++ if device = .stderr then document else [] }
      | .whole => { stderr := i.told script, file := some (path, document) }
      | .cutShort taken cause =>
        { exit := 1
          stderr := i.told script ++ failureText ("Failed to write ".toList ++ path) cause
          cut := some (path, (bytesOf document).take taken) } := by
  rw [finish_of_document hdocument, houtput]
  simp only [Outcome.deliver]
  cases w.write path document <;> rfl

/-- a document that can be written ends the run well, and as a whole -/
theorem exit_of_takes (h : convert i.options script = .ok document) (htakes : ∀ path ∈ i.output, w.Takes path document) :
    ((i.finish (.ok script)).deliver w).exit = 0 ∧ ((i.finish (.ok script)).deliver w).cut = none := by
  cases houtput : i.output with
  | none =>
    rw [deliver_of_no_output h houtput]
    exact ⟨rfl, rfl⟩
  | some path =>
    have htaken : w.Takes path document := htakes path houtput
    rw [deliver_of_output h houtput]
    unfold Surroundings.Takes at htaken
    cases hwrite : w.write path document with
    | refused cause =>
      rw [hwrite] at htaken
      cases htaken
    | cutShort taken cause =>
      rw [hwrite] at htaken
      cases htaken
    | _ => exact ⟨rfl, rfl⟩

/-- **A document that can be written** goes where it should. -/
theorem delivered_finish (h : convert i.options script = .ok document)
    (htakes : ∀ path ∈ i.output, w.Takes path document) :
    Delivered w i script document ((i.finish (.ok script)).deliver w) where
  stdout_eq houtput := by
    rw [deliver_of_no_output h houtput]
    exact ⟨rfl, rfl, Outcome.untouched_of_opened? rfl⟩
  file_eq path place houtput hplace hnone := by
    rw [deliver_of_output h houtput, write_of_takes (htakes path houtput) hplace, hnone]
    exact ⟨rfl, rfl, Outcome.leaves_of_opened? rfl hplace⟩
  device_eq path place device houtput hplace hdevice := by
    rw [deliver_of_output h houtput, write_of_takes (htakes path houtput) hplace, hdevice]
    exact ⟨rfl, rfl, Outcome.untouched_of_opened? rfl⟩
  change_iff := Outcome.change?_isSome_iff (exit_of_takes h htakes).2

/-- a document that does not end the run well: nothing was opened, or a file took a part of it -/
theorem untouched_or_brokenOff_of_document (h : convert i.options script = .ok document)
    (hexit : ((i.finish (.ok script)).deliver w).exit ≠ 0) :
    ((i.finish (.ok script)).deliver w).Untouched w.folder ∨
      BrokenOff w i script ((i.finish (.ok script)).deliver w) := by
  cases houtput : i.output with
  | none =>
    rw [deliver_of_no_output h houtput] at hexit
    exact absurd rfl hexit
  | some path =>
    rw [deliver_of_output h houtput] at hexit ⊢
    cases hwrite : w.write path document with
    | refused cause => exact Or.inl (Outcome.untouched_of_opened? rfl)
    | device device =>
      rw [hwrite] at hexit
      exact absurd rfl hexit
    | whole =>
      rw [hwrite] at hexit
      exact absurd rfl hexit
    | cutShort taken cause =>
      obtain ⟨place, hplace⟩ := exists_target_of_write hwrite
      exact Or.inr
        { exit_eq := rfl
          stdout_eq := rfl
          part := ⟨document, path, place, taken, cause, h, houtput, hplace, hwrite, rfl,
            Outcome.leaves_of_opened? rfl hplace⟩ }

/-- **A run that fails** leaves all files as they were, but for the one that took a part of the document. -/
theorem untouched_or_brokenOff (w : Surroundings) (arguments : List Text) (hexit : (run w arguments).exit ≠ 0) :
    (run w arguments).Untouched w.folder ∨
      ∃ i script, Request.ofArguments arguments = .convert i ∧ w.read i.source = .ok script ∧
        BrokenOff w i script (run w arguments) := by
  unfold run at hexit ⊢
  cases hrequest : Request.ofArguments arguments with
  | convert i =>
    rw [hrequest, Request.run] at hexit
    rw [Request.run]
    cases hread : w.read i.source with
    | error cause => exact Or.inl (Outcome.untouched_of_opened? rfl)
    | ok script =>
      rw [hread] at hexit
      cases hconvert : convert i.options script with
      | error e =>
        rw [finish_of_error hconvert, deliver_of_no_file rfl]
        exact Or.inl (Outcome.untouched_of_opened? rfl)
      | ok document =>
        exact (untouched_or_brokenOff_of_document hconvert hexit).imp_right fun h => ⟨i, script, rfl, hread, h⟩
  | _ => exact Or.inl (Outcome.untouched_of_opened? rfl)

/-- **Runs agree with conversions.** A run that can read its script, and whose document can be written where it should
go, exits with 0 exactly if the script has a document, which then goes there, and else with 1 and nothing on standard
output. A run that fails for whatever reason leaves all files as they were, unless the file at the output path was opened
and took only a part of the document: then this part is what it holds, and all other files are as they were. -/
theorem run_agrees (w : Surroundings) (arguments : List Text) :
    (∀ i script, Request.ofArguments arguments = .convert i → w.read i.source = .ok script →
        (∀ path ∈ i.output, ∀ document, convert i.options script = .ok document → w.Takes path document) →
          ((run w arguments).exit = 0 ↔ ∃ document, convert i.options script = .ok document) ∧
          (∀ document, convert i.options script = .ok document →
            Delivered w i script document (run w arguments)) ∧
          (∀ e, convert i.options script = .error e →
            (run w arguments).exit = 1 ∧ (run w arguments).stdout = [])) ∧
      ((run w arguments).exit ≠ 0 →
        (run w arguments).Untouched w.folder ∨
          ∃ i script, Request.ofArguments arguments = .convert i ∧ w.read i.source = .ok script ∧
            BrokenOff w i script (run w arguments)) := by
  refine ⟨fun i script hrequest hread hwritable => ?_, untouched_or_brokenOff w arguments⟩
  have hrun : run w arguments = (i.finish (.ok script)).deliver w := by
    rw [run, hrequest, Request.run, hread]
  rw [hrun]
  have htakes {document : Text} (h : convert i.options script = .ok document) : ∀ path ∈ i.output,
      w.Takes path document := fun path hpath => hwritable path hpath document h
  have hrefused {e : ConversionError} (h : convert i.options script = .error e) :
      ((i.finish (.ok script)).deliver w).exit = 1 ∧ ((i.finish (.ok script)).deliver w).stdout = [] := by
    rw [finish_of_error h, deliver_of_no_file rfl]
    exact ⟨rfl, rfl⟩
  refine ⟨⟨fun hexit => ?_, fun ⟨document, h⟩ => (exit_of_takes h (htakes h)).1⟩,
    fun document h => delivered_finish h (htakes h), fun e h => hrefused h⟩
  cases h : convert i.options script with
  | ok document => exact ⟨document, rfl⟩
  | error e =>
    rw [(hrefused h).1] at hexit
    cases hexit

/-- a script on standard input, with the datasource and the output named -/
theorem run_agrees_named_output :
    ∃ document,
      convert { datasource := "mysql".toList } "CREATE TABLE t (id INT)".toList = .ok document ∧
        Delivered { stdin := .ok "CREATE TABLE t (id INT)".toList }
          { output := some "out.prisma".toList, datasource := some "mysql".toList } "CREATE TABLE t (id INT)".toList
          document
          (run { stdin := .ok "CREATE TABLE t (id INT)".toList }
            ["--provider=mysql".toList, "-oout.prisma".toList]) := by
  have hagrees := (run_agrees { stdin := .ok "CREATE TABLE t (id INT)".toList }
      ["--provider=mysql".toList, "-oout.prisma".toList]).1
    { output := some "out.prisma".toList, datasource := some "mysql".toList } _ (by decide +kernel) rfl
    fun path hpath document _ => by
      obtain rfl : "out.prisma".toList = path := Option.some.inj hpath
      rfl
  obtain ⟨document, hdocument⟩ := hagrees.1.1 (by decide +kernel)
  exact ⟨document, hdocument, hagrees.2.1 document hdocument⟩

/-- with standard output as the output path the document stands on standard output; and a file with room for a part of
the document only is left with this part, by a run that fails -/
theorem document_on_stdout_or_cut :
    (¬ ∀ (w : Surroundings) (arguments : List Text) (i : Invocation) (script document path : Text),
        Request.ofArguments arguments = .convert i → w.read i.source = .ok script →
          convert i.options script = .ok document → i.output = some path → w.Takes path document →
            (run w arguments).stdout = []) ∧
      ¬ ∀ (w : Surroundings) (arguments : List Text),
        (run w arguments).exit ≠ 0 → (run w arguments).Untouched w.folder := by
  constructor
  · intro h
    have hconvert : (convert {} "CREATE TABLE t (id INT);".toList).isOk = true := by decide +kernel
    cases hdocument : convert {} "CREATE TABLE t (id INT);".toList with
    | error e =>
      rw [hdocument] at hconvert
      cases hconvert
    | ok document =>
      have hstdout := h { stdin := .ok "CREATE TABLE t (id INT);".toList } ["-o".toList, "/dev/stdout".toList]
        { output := some "/dev/stdout".toList } _ document "/dev/stdout".toList (by decide +kernel) rfl hdocument rfl
        rfl
      exact absurd hstdout (by decide +kernel)
  · intro h
    have huntouched := h
      { stdin := .ok "CREATE TABLE t (id INT);".toList, shortage := fun _ _ => some (16, .noSpace) }
      ["-o".toList, "out.prisma".toList] (by decide +kernel) ["tmp".toList, "work".toList, "out.prisma".toList]
    exact absurd huntouched (by decide +kernel)

end SchemaBridge.CommandLine
