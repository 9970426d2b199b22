/-
A run of the command line as a function: from the arguments and what can be read to what is written.

`Invocation.source` says what has to be read, and `Invocation.finish` turns what was read into the outcome: exit
status, both outputs, and the file that is to be written. Debug notices are shown on request only, and nothing else
depends on that.

`run` is the whole run in given surroundings. These have a folder of known contents, and they decide what neither the
folder nor the program can: whether a path may be read or opened for writing, how much of a document a file takes before
there is no more room (`Surroundings.write`), and what is said about arguments that are refused. A file is emptied when it
is opened, so what it took of a document is all that is left in it (`Outcome.bytesAfter?`). The standard streams take
whatever is written to them.
-/
import SchemaBridge.Conversion
import SchemaBridge.CommandLine.Arguments
import SchemaBridge.CommandLine.Folder

namespace SchemaBridge.CommandLine

/-- what a run leaves behind -/
structure Outcome where
  exit : UInt32 := 0
  stdout : Text := []
  stderr : Text := []
  /-- the path and contents of a file to write -/
  file : Option (Text × Text) := none
  /-- the path of a file that took only a part of its contents, and this part -/
  cut : Option (Text × List UInt8) := none
  deriving DecidableEq, Repr

/-- where the script comes from -/
inductive Source where
  | stdin
  | file (path : Text)
  deriving DecidableEq, Repr

/-- a single dash stands for standard input too -/
def Invocation.source (i : Invocation) : Source :=
  match i.input with
  | none => .stdin
  | some path => if path = ['-'] then .stdin else .file path

/-- the header that the options ask for -/
def Invocation.options (i : Invocation) : Model.Options :=
  let defaults : Model.Options := {}
  { defaults with
    datasource := i.datasource.getD defaults.datasource
    urlVariable := i.urlVariable.getD defaults.urlVariable }

/-- a notice as a line, if it is to be shown -/
def noticeLine (verbose : Bool) (n : Notice) : List Text :=
  match n.level with
  | .warning => ["warning: ".toList ++ n.message]
  | .debug => if verbose then ["debug: ".toList ++ n.message] else []

/-- the notices that are shown, a line each -/
def noticeText (verbose : Bool) (notices : List Notice) : Text :=
  Model.renderLines (notices.flatMap (noticeLine verbose))

/-- the report of an error and its cause -/
def failureText (context : Text) (cause : Failure) : Text :=
  Model.renderLines
    ["Error: ".toList ++ context, [], "Caused by:".toList, "    ".toList ++ cause.message]

/-- what is told when a script declares nothing -/
def nothingText (skipped : Nat) : Text :=
  Model.renderLines
    ["Error: no valid CREATE TABLE or CREATE TYPE definitions found (".toList ++ Text.ofNat skipped ++
      " statements skipped)".toList]

/-- the context of a source that cannot be read -/
def Source.readContext : Source → Text
  | .stdin => "Failed to read stdin".toList
  | .file path => "Failed to read ".toList ++ path

/-- the outcome of a conversion, given the script or why it could not be read -/
def Invocation.finish (i : Invocation) (script : Except Failure Text) : Outcome :=
  match script with
  | .error cause => { exit := 1, stderr := failureText i.source.readContext cause }
  | .ok text =>
    let reading := Ddl.readScript text
    let told := noticeText i.verbose reading.notices
    if reading.schema.isEmpty then { exit := 1, stderr := told ++ nothingText reading.skipped.length }
    else
      let related := relate reading.schema
      let stderr := told ++ noticeText i.verbose related.notices
      let document := generate i.options reading.schema
      match i.output with
      | none => { stdout := document, stderr }
      | some path => { stderr, file := some (path, document) }

/-- the outcome when the file that was to be written cannot be -/
def Outcome.refuseFile (o : Outcome) (cause : Failure) : Outcome :=
  match o.file with
  | none => o
  | some (path, _) =>
    { exit := 1, stdout := o.stdout, stderr := o.stderr ++ failureText ("Failed to write ".toList ++ path) cause }

def versionText : Text :=
  "sqlprism 0.1.0\n".toList

def helpText : Text :=
  Model.renderLines <| List.map String.toList
    ["Convert PostgreSQL DDL into a Prisma schema",
     "",
     "Usage: sqlprism [OPTIONS] [INPUT]",
     "",
     "Arguments:",
     "  [INPUT]  SQL file to convert (reads stdin when omitted or \x60-\x60)",
     "",
     "Options:",
     "  -o, --output <OUTPUT>      Output file (default: stdout)",
     "      --provider <PROVIDER>  Datasource provider written to the header [default: postgresql]",
     "      --url-env <URL_ENV>    Environment variable holding the database URL [default: DATABASE_URL]",
     "  -v, --verbose              Log skipped statements and pass summaries",
     "  -h, --help                 Print help",
     "  -V, --version              Print version"]

/-- what is said about the arguments themselves -/
structure Wording where
  help : Text := helpText
  version : Text := versionText
  /-- the text for arguments that are refused; it may repeat any of them -/
  rejection : List Text → Text := fun _ => []

/-! ## Runs in a folder -/

/-- what a run finds -/
structure Surroundings where
  /-- the text on standard input, if it is one -/
  stdin : Except Failure Text
  folder : Folder := {}
  /-- why what is at a path cannot be read, whatever the folder has there -/
  unreadable : Text → Option Failure := fun _ => none
  /-- why a path cannot be opened for writing, whatever the folder has there -/
  unwritable : Text → Option Failure := fun _ => none
  /-- how many bytes of a document the file at a path takes if it does not take it whole, and why it takes no more -/
  shortage : Text → Text → Option (Nat × Failure) := fun _ _ => none
  wording : Wording := {}

/-- how a document is taken where it is written -/
inductive Writing where
  /-- nothing is opened -/
  | refused (cause : Failure)
  | device (device : Device)
  | whole
  /-- a file is opened, takes some bytes, and then no more -/
  | cutShort (taken : Nat) (cause : Failure)
  deriving DecidableEq, Repr

/-- why a document is not written, or not as a whole -/
def Writing.failure? : Writing → Option Failure
  | refused cause => some cause
  | device _ => none
  | whole => none
  | cutShort _ cause => some cause

namespace Surroundings

/-- the script of a source -/
def read (w : Surroundings) : Source → Except Failure Text
  | .stdin => w.stdin
  | .file path =>
    match w.unreadable path with
    | some cause => .error cause
    | none => do
      let place ← w.folder.source path
      match Device.at? place, w.folder.file? place with
      | some .stdin, _ => w.stdin
      | some .full, _ => .error .outOfMemory
      | some _, _ => .ok []
      | none, some contents => .ok contents
      | none, none => .error .missing

/-- how a document is taken by the device that a path was opened at, or else by the file -/
def fill (w : Surroundings) (path document : Text) : Option Device → Writing
  | some .full => .refused .noSpace
  | some device => .device device
  | none =>
    match w.shortage path document with
    | none => .whole
    | some (taken, cause) => .cutShort taken cause

/-- how a document is taken at a path -/
def write (w : Surroundings) (path document : Text) : Writing :=
  match w.unwritable path, w.folder.target path with
  | some cause, _ => .refused cause
  | none, .error cause => .refused cause
  | none, .ok place => w.fill path document (Device.at? place)

end Surroundings

/-- the outcome once its file is written, as far as that can be done -/
def Outcome.deliver (o : Outcome) (w : Surroundings) : Outcome :=
  match o.file with
  | none => o
  | some (path, document) =>
    match w.write path document with
    | .refused cause => o.refuseFile cause
    | .device device =>
      { o with
        stdout := o.stdout ++ (if device = .stdout then document else [])
        stderr := o.stderr ++ (if device = .stderr then document else [])
        file := none }
    | .whole => o
    | .cutShort taken cause => { o.refuseFile cause with cut := some (path, (bytesOf document).take taken) }

/-- the outcome of a request, given the text for arguments that are refused -/
def Request.run (w : Surroundings) (rejection : Text) : Request → Outcome
  | .usageError => { exit := 2, stderr := rejection }
  | .help => { stdout := w.wording.help }
  | .version => { stdout := w.wording.version }
  | .convert i => (i.finish (w.read i.source)).deliver w

/-- the outcome of a run with the given arguments -/
def run (w : Surroundings) (arguments : List Text) : Outcome :=
  (Request.ofArguments arguments).run w (w.wording.rejection arguments)

/-! ## Files after a run -/

namespace Outcome

/-- the path of the file that was opened for writing, if one was, and the bytes that it holds then -/
def opened? (o : Outcome) : Option (Text × List UInt8) :=
  o.cut <|> o.file.map fun (path, document) => (path, bytesOf document)

/-- the bytes of the file at a place, after a run that found a folder -/
def bytesAfter? (o : Outcome) (f : Folder) (place : Place) : Option (List UInt8) :=
  match o.opened? with
  | none => f.bytes? place
  | some (path, bytes) => if (f.target path).toOption = some place then some bytes else f.bytes? place

/-- the file of the folder that is new or changed, if its document was taken as a whole -/
def change? (o : Outcome) (f : Folder) : Option (Text × Text) :=
  o.file.bind fun (path, document) => f.change? path document

end Outcome

end SchemaBridge.CommandLine
