/-
The files of a working folder, and why one of them cannot be read or written.

A path is the names of folders and a file with slashes between. It is walked name by name (`Folder.step`), from the
root if it begins with a slash and else from the working folder: one dot stays in the folder, two dots lead to the
one around it. Every place on the way has to be a folder. Beside the working folder, the folders around it, the
usual folders at the root and a few devices are known, but no other files.

A folder tells where a path leads. Whether the system then lets the file there be read or written, and whether there is
room for it, is not for the folder to say, but for the surroundings of a run.
-/
import SchemaBridge.Text.Basic

namespace SchemaBridge.CommandLine

/-- why a file or stream cannot be read or written -/
inductive Failure where
  | missing
  | notFolder
  | isFolder
  | nameTooLong
  | notUtf8
  | denied
  | noSpace
  | outOfMemory
  /-- any other failure, by what the system calls it -/
  | other (name : Text)
  deriving DecidableEq, Repr

def Failure.message : Failure → Text
  | missing => "No such file or directory (os error 2)".toList
  | notFolder => "Not a directory (os error 20)".toList
  | isFolder => "Is a directory (os error 21)".toList
  | nameTooLong => "File name too long (os error 36)".toList
  | notUtf8 => "stream did not contain valid UTF-8".toList
  | denied => "Permission denied (os error 13)".toList
  | noSpace => "No space left on device (os error 28)".toList
  | outOfMemory => "out of memory".toList
  | other name => name

/-! ## Paths -/

/-- a place: the names that lead to it from the root -/
abbrev Place := List Text

/-- a text in UTF-8 -/
def bytesOf (s : Text) : List UInt8 :=
  s.flatMap String.utf8EncodeChar

/-- bytes of a text in UTF-8 -/
def byteCount (s : Text) : Nat :=
  s.foldl (fun n c => n + c.utf8Size) 0

/-- the names in a path, dots among them -/
def pathNames (path : Text) : List Text :=
  (Text.splitWhere (· == '/') path).filter (!·.isEmpty)

/-- the path starts at the root -/
def isRooted (path : Text) : Bool :=
  path.head? == some '/'

/-- the path can only mean a folder -/
def endsAsFolder (path : Text) : Bool :=
  path.getLast? == some '/'

/-- a name that stands for a folder relative to another -/
def isDots (name : Text) : Bool :=
  name == ['.'] || name == ['.', '.']

/-- names above this many bytes are refused -/
def nameLimit : Nat := 255

/-- paths above this many bytes are refused -/
def pathLimit : Nat := 4095

/-- the folders that are found at the root -/
def rootFolders : List Text :=
  List.map String.toList
    ["bin", "boot", "dev", "etc", "home", "lib", "lib64", "media", "mnt", "opt", "proc", "root", "run", "sbin", "srv",
     "sys", "tmp", "usr", "var"]

/-- what stands at a place instead of a file -/
inductive Device where
  /-- empty, and forgets what is written to it -/
  | null
  /-- without end, and never has room for anything -/
  | full
  | stdin
  | stdout
  | stderr
  deriving DecidableEq, Repr

/-- the device at a place -/
def Device.at? (place : Place) : Option Device :=
  if place = ["dev".toList, "null".toList] then some null
  else if place = ["dev".toList, "full".toList] then some full
  else if place = ["dev".toList, "stdin".toList] then some stdin
  else if place = ["dev".toList, "stdout".toList] then some stdout
  else if place = ["dev".toList, "stderr".toList] then some stderr
  else none

/-! ## The working folder -/

/-- a working folder: its own place, and its files by path with their contents -/
structure Folder where
  place : Place := ["tmp".toList, "work".toList]
  files : List (Text × Text) := []
  deriving DecidableEq, Repr

namespace Folder

/-- the place of a file of the working folder -/
def placeOf (f : Folder) (path : Text) : Place :=
  f.place ++ (pathNames path).filter (!isDots ·)

/-- the contents of the file at a place -/
def file? (f : Folder) (place : Place) : Option Text :=
  (f.files.find? (f.placeOf ·.1 == place)).map (·.2)

/-- the bytes of the file at a place -/
def bytes? (f : Folder) (place : Place) : Option (List UInt8) :=
  (f.file? place).map bytesOf

/-- there is a folder at a place -/
def hasFolder (f : Folder) (place : Place) : Bool :=
  place.isPrefixOf f.place || (rootFolders.map ([·])).contains place ||
    f.files.any fun (path, _) => place.isPrefixOf (f.placeOf path).dropLast

/-- fails if there is no folder at a place -/
def needFolder (f : Folder) (place : Place) : Except Failure Unit :=
  if f.hasFolder place then .ok ()
  else .error (if (f.file? place).isSome || (Device.at? place).isSome then .notFolder else .missing)

/-- the place that a name leads to; there need not be anything -/
def step (f : Folder) (place : Place) (name : Text) : Except Failure Place := do
  f.needFolder place
  if name = ['.'] then .ok place
  else if name = ['.', '.'] then .ok place.dropLast
  else if byteCount name > nameLimit then .error .nameTooLong
  else .ok (place ++ [name])

/-- the place that some names lead to -/
def walk (f : Folder) (path : Text) (names : List Text) : Except Failure Place :=
  if byteCount path > pathLimit then .error .nameTooLong
  else names.foldlM f.step (if isRooted path then [] else f.place)

/-- the place of the file or device at a path; there need not be any -/
def source (f : Folder) (path : Text) : Except Failure Place := do
  let place ← f.walk path (pathNames path)
  if f.hasFolder place then .error .isFolder
  if endsAsFolder path then f.needFolder place
  return place

/-- the place where a file can be written at a path -/
def target (f : Folder) (path : Text) : Except Failure Place := do
  let around ← f.walk path (pathNames path).dropLast
  f.needFolder around
  match (pathNames path).getLast? with
  | none => .error .isFolder
  | some name =>
    if endsAsFolder path && !isDots name then .error .isFolder
    let place ← f.step around name
    if f.hasFolder place then .error .isFolder else .ok place

/-- what is new or changed in the folder once a file is written at a path: its path from the folder, and the
contents -/
def change? (f : Folder) (path contents : Text) : Option (Text × Text) :=
  match f.target path with
  | .error _ => none
  | .ok place =>
    if !f.place.isPrefixOf place || f.file? place == some contents then none
    else some (Text.joinWith ['/'] (place.drop f.place.length), contents)

end Folder

end SchemaBridge.CommandLine
