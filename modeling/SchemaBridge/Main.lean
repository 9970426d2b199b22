/-
The command line program. It reads what the arguments name, leaves every decision to
`CommandLine.Invocation.finish`, and writes the outcome.
-/
import SchemaBridge.CommandLine.Run

namespace SchemaBridge.CommandLine

/-- the text of some bytes -/
def decode (bytes : ByteArray) : Except Failure Text :=
  match String.fromUTF8? bytes with
  | some s => .ok s.toList
  | none => .error .notUtf8

/-- how a failed access to a file is reported -/
def Failure.ofError : IO.Error → Failure
  | .noFileOrDirectory .. => .missing
  | .inappropriateType _ code _ => if code = 21 then .isFolder else .notFolder
  | .invalidArgument .. => .nameTooLong
  | .permissionDenied .. => .denied
  | .resourceExhausted _ 28 _ => .noSpace
  | e => .other e.toString.toList

/-- the text of a source, or why there is none -/
def Source.fetch : Source → IO (Except Failure Text)
  | .stdin => do
    return decode (← (← IO.getStdin).readBinToEnd)
  | .file path => do
    try
      return decode (← IO.FS.readBinFile (String.ofList path))
    catch e =>
      return .error (.ofError e)

/-- a short text for arguments that are refused, which does not say what is wrong with them -/
def refusalText : Text :=
  Model.renderLines <| List.map String.toList
    ["error: invalid arguments", "", "Usage: sqlprism [OPTIONS] [INPUT]", "", "For more information, try '--help'."]

/-- writes the file of an outcome; the outcome then stands, or tells of the failure -/
def Outcome.writeFile (o : Outcome) : IO Outcome := do
  match o.file with
  | none => return o
  | some (path, contents) =>
    try
      IO.FS.writeFile (String.ofList path) (String.ofList contents)
      return o
    catch e =>
      return o.refuseFile (.ofError e)

end SchemaBridge.CommandLine

open SchemaBridge.CommandLine in
def main (arguments : List String) : IO UInt32 := do
  let outcome ←
    match Request.ofArguments (arguments.map String.toList) with
    | .convert i => do (i.finish (← i.source.fetch)).writeFile
    | request => pure (request.run { stdin := .ok [] } refusalText)
  (← IO.getStderr).putStr (String.ofList outcome.stderr)
  (← IO.getStdout).putStr (String.ofList outcome.stdout)
  return outcome.exit
