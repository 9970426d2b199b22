/-
The arguments of the command line.

Options may stand anywhere and take their value from the same argument or from the next; `--` ends them. Short
options can share one argument, the last of them with its value at once. Reading goes from left to right, so a
request for help or the version counts only if nothing before it was wrong, and nothing after it is looked at.
-/
import SchemaBridge.Text.Basic

namespace SchemaBridge.CommandLine

/-- what a conversion is asked to do; `none` stands for standard input or output -/
structure Invocation where
  input : Option Text := none
  output : Option Text := none
  datasource : Option Text := none
  urlVariable : Option Text := none
  verbose : Bool := false
  deriving DecidableEq, Repr

/-- what the arguments ask for -/
inductive Request where
  | convert (invocation : Invocation)
  | help
  | version
  | usageError
  deriving DecidableEq, Repr

/-- an option with a value -/
inductive Setting where
  | output
  | datasource
  | urlVariable
  deriving DecidableEq, Repr

/-- an option without a value -/
inductive Switch where
  | verbose
  | help
  | version
  deriving DecidableEq, Repr

def longSetting? (name : Text) : Option Setting :=
  if name = "output".toList then some .output
  else if name = "provider".toList then some .datasource
  else if name = "url-env".toList then some .urlVariable
  else none

def longSwitch? (name : Text) : Option Switch :=
  if name = "verbose".toList then some .verbose
  else if name = "help".toList then some .help
  else if name = "version".toList then some .version
  else none

def shortSwitch? (c : Char) : Option Switch :=
  if c = 'v' then some .verbose
  else if c = 'h' then some .help
  else if c = 'V' then some .version
  else none

namespace Invocation

/-- the input is named, once and not by an empty name -/
def setInput? (i : Invocation) (value : Text) : Option Invocation :=
  if i.input.isSome || value.isEmpty then none else some { i with input := some value }

/-- an option is given its value, once; an output has a name -/
def set? (i : Invocation) (setting : Setting) (value : Text) : Option Invocation :=
  match setting with
  | .output => if i.output.isSome || value.isEmpty then none else some { i with output := some value }
  | .datasource => if i.datasource.isSome then none else some { i with datasource := some value }
  | .urlVariable => if i.urlVariable.isSome then none else some { i with urlVariable := some value }

end Invocation

/-- where reading stands after an argument -/
inductive Progress where
  | done (request : Request)
  | going (invocation : Invocation)
  /-- the next argument is the value of an option -/
  | awaiting (invocation : Invocation) (setting : Setting)
  /-- every further argument is the input -/
  | ended (invocation : Invocation)
  deriving DecidableEq, Repr

namespace Progress

/-- goes on with the invocation if there is one -/
def ofOption : Option Invocation → Progress
  | some i => going i
  | none => done .usageError

/-- reads short options that share an argument -/
def short (i : Invocation) : Text → Progress
  | [] => going i
  | c :: rest =>
    if c = 'o' then
      match rest with
      | [] => awaiting i .output
      | '=' :: value => ofOption (i.set? .output value)
      | value => ofOption (i.set? .output value)
    else
      match shortSwitch? c with
      | some .verbose => if i.verbose then done .usageError else short { i with verbose := true } rest
      | some .help => done .help
      | some .version => done .version
      | none => done .usageError

/-- reads a long option, its value after an equals sign if it has one -/
def long (i : Invocation) (option : Text) : Progress :=
  let name := option.takeWhile (· != '=')
  match longSetting? name, longSwitch? name, option.dropWhile (· != '=') with
  | some setting, _, [] => awaiting i setting
  | some setting, _, _ :: value => ofOption (i.set? setting value)
  | none, some .verbose, [] => if i.verbose then done .usageError else going { i with verbose := true }
  | none, some .help, [] => done .help
  | none, some .version, [] => done .version
  | _, _, _ => done .usageError

/-- one more argument -/
def step (p : Progress) (argument : Text) : Progress :=
  match p with
  | done request => done request
  | ended i =>
    match i.setInput? argument with
    | some i => ended i
    | none => done .usageError
  | awaiting i setting =>
    match argument with
    | '-' :: _ :: _ => done .usageError
    | value => ofOption (i.set? setting value)
  | going i =>
    match argument with
    | ['-', '-'] => ended i
    | '-' :: '-' :: option => long i option
    | '-' :: c :: rest => short i (c :: rest)
    | value => ofOption (i.setInput? value)

/-- what the arguments read so far ask for -/
def request : Progress → Request
  | done request => request
  | going i => .convert i
  | ended i => .convert i
  | awaiting _ _ => .usageError

end Progress

/-- what a list of arguments asks for -/
def Request.ofArguments (arguments : List Text) : Request :=
  (arguments.foldl Progress.step (.going {})).request

end SchemaBridge.CommandLine
