/-
**The command line.**

Without a command, or with `serve`, the program answers an editor on its standard streams; with
`inspect` it prints a report on one file.

Main definitions:

* `Command`, `Command.parse?` — what is asked for, and reading the arguments;
* `Outcome`, `Command.outcome` — what is printed, and the exit code.
-/
import MockLens.Inspection

set_option autoImplicit false

namespace MockLens

/-- What the arguments ask for. -/
inductive Command where
  | serve
  | inspect (file : String) (workspace : Option String) (json : Bool)
  deriving DecidableEq, Repr

/-- What a run prints and how it ends. -/
structure Outcome where
  exitCode : Nat
  output : String := ""
  errors : List String := []
  deriving DecidableEq, Repr

namespace Command

/-- What has been read of the arguments behind `inspect`. -/
structure InspectArguments where
  file : Option String := none
  workspace : Option String := none
  json : Bool := false
  /-- How much to log; this never changes what is printed. -/
  level : Option String := none
  /-- Everything from here on is a file. -/
  onlyFiles : Bool := false
  deriving DecidableEq, Repr

/-- An argument may be the value of an option: it does not look like an option itself. -/
def isValue (arg : String) : Bool := !Text.startsWith "-" arg || arg == "-"

/-- Sets an option that must be given only once. -/
def once (present : Option String) (value : String) : Option (Option String) :=
  if present.isSome then none else some (some value)

/-- Sets the workspace, which must have a name. -/
def InspectArguments.setWorkspace (a : InspectArguments) (value : String) :
    Option InspectArguments :=
  if value == "" then none
  else (once a.workspace value).map fun w => { a with workspace := w }

/-- Sets how much to log. -/
def InspectArguments.setLevel (a : InspectArguments) (value : String) : Option InspectArguments :=
  (once a.level value).map fun l => { a with level := l }

/-- Sets the file, which must have a name. -/
def InspectArguments.setFile (a : InspectArguments) (value : String) : Option InspectArguments :=
  if value == "" then none
  else (once a.file value).map fun f => { a with file := f }

/-- Reads an argument that needs none behind it. -/
def InspectArguments.single (a : InspectArguments) (arg : String) : Option InspectArguments :=
  if a.onlyFiles then a.setFile arg
  else if arg == "--" then some { a with onlyFiles := true }
  else if arg == "--json" then (if a.json then none else some { a with json := true })
  else
    match Text.dropPrefix? "--workspace=" arg, Text.dropPrefix? "--log-level=" arg,
      Text.dropPrefix? "-w" arg with
    | some value, _, _ => a.setWorkspace value
    | _, some value, _ => a.setLevel value
    | _, _, some value => a.setWorkspace ((Text.dropPrefix? "=" value).getD value)
    | none, none, none => if isValue arg then a.setFile arg else none

/-- Reads the arguments behind `inspect`. -/
def inspectArguments? : InspectArguments → List String → Option InspectArguments
  | a, [] => some a
  | a, [arg] =>
    if !a.onlyFiles && ["-w", "--workspace", "--log-level"].contains arg then none else a.single arg
  | a, arg :: value :: rest =>
    if a.onlyFiles then (a.single arg).bind fun a => inspectArguments? a (value :: rest)
    else if arg == "-w" || arg == "--workspace" then
      if isValue value then (a.setWorkspace value).bind fun a => inspectArguments? a rest else none
    else if arg == "--log-level" then
      if isValue value then (a.setLevel value).bind fun a => inspectArguments? a rest else none
    else (a.single arg).bind fun a => inspectArguments? a (value :: rest)

/-- Reads the arguments behind `serve`: only how much to log may be given, and only once. -/
def serveArguments? : List String → Option Command
  | [] => some serve
  | ["--"] => some serve
  | [arg] => if Text.startsWith "--log-level=" arg then some serve else none
  | ["--log-level", value] => if isValue value then some serve else none
  | [arg, "--"] => if Text.startsWith "--log-level=" arg then some serve else none
  | ["--log-level", value, "--"] => if isValue value then some serve else none
  | _ => none

/-- Reads the arguments from the name of the command on. -/
def named? : List String → Option Command
  | [] => some serve
  | ["--"] => some serve
  | "serve" :: rest => serveArguments? rest
  | "inspect" :: rest =>
    (inspectArguments? {} rest).bind fun a => a.file.map fun file => inspect file a.workspace a.json
  | _ => none

/-- Reads the arguments; how much to log may be given in front of the command. -/
def parse? : List String → Option Command
  | "--log-level" :: value :: rest => if isValue value then named? rest else none
  | arg :: rest =>
    if Text.startsWith "--log-level=" arg then named? rest else named? (arg :: rest)
  | [] => some serve

/-- The outcome of a command in the directory `here`; what a server says is not part of it. -/
def outcome (env : Environment) (here : Path) : Command → Outcome
  | serve => { exitCode := 0 }
  | inspect file workspace json =>
    match Inspection.run env here ⟨file⟩ (workspace.map Path.mk) with
    | .ok report =>
      { exitCode := 0
        output := if json then report.toJson.pretty ++ "\n" else report.text }
    | .error e => { exitCode := 1, errors := ["error: " ++ e.message] }

/-- The outcome of the program with the given arguments; arguments that cannot be read end it with
exit code 2. -/
def run (env : Environment) (here : Path) (arguments : List String) : Outcome :=
  match parse? arguments with
  | some command => command.outcome env here
  | none => { exitCode := 2 }

end Command

end MockLens
