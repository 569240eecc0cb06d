/-
**The program.**

This module reads the arguments, the files and the messages, hands them to the library and prints
what it answers.  The files a command can see are read beforehand: the tree of the project, the
ignore files of the directories above it, and the directory of third-party packages.
-/
import MockLens.CommandLine
import MockLens.Server

set_option autoImplicit false

namespace MockLens.Main

/-! ### Files -/

/-- The contents of files with this name count; of other files only that they are there. -/
def isRead (name : String) : Bool :=
  Path.nameHasExtension "php" name ||
    [".ignore", ".gitignore", ".phake-lsp.toml", "composer.json", "exclude"].contains name

/-- The contents of a file; one that cannot be read is taken to be no text. -/
def readContents (path : String) : IO FileContents := do
  try
    return FileContents.ofBytes (← IO.FS.readBinFile path).toList
  catch _ => return .binary ""

/-- The tree at a path. -/
partial def readTree (path : String) : IO FileTree := do
  let place ← IO.FS.realPath path
  if ← place.isDir then
    let mut entries := []
    for entry in ← place.readDir do
      entries := (entry.fileName, ← readEntry entry.path.toString entry.fileName) :: entries
    return .directory entries
  else return .file (← readContents path)
where
  readEntry (path name : String) : IO FileTree := do
    try
      let place ← IO.FS.realPath path
      if ← place.isDir then readTree path
      else if isRead name then return .file (← readContents path)
      else return .file (.text "")
    catch _ => return .file (.binary "")

/-- What counts of a directory above a project: its ignore files and its repository. -/
def readAbove (path : String) : IO FileTree := do
  let mut tree := FileTree.directory []
  for names in [[".ignore"], [".gitignore"], [".git", "info", "exclude"]] do
    let file := path ++ "/" ++ "/".intercalate names
    if ← (System.mkFilePath [file]).pathExists then
      tree := FileTree.insert (.file (← readContents file)) names tree
  if ← (System.mkFilePath [path, ".git"]).pathExists then
    tree := FileTree.insert (.directory []) [".git"] tree
  return tree

/-- The names of the steps of a path. -/
def namesOf (path : Path) : List String := path.resolved.steps.map Path.Step.text

/-- Adds what is at an absolute path to the files that are known. -/
def addTree (disk : FileTree) (path : Path) : IO FileTree := do
  if ← (System.mkFilePath [path.text]).pathExists then
    return FileTree.insert (← readTree path.text) (namesOf path) disk
  else return disk

/-- The files that the project at `root` may read. -/
def readProject (root : Path) : IO FileTree := do
  let mut disk ← readAbove "/"
  let names := namesOf root
  for n in List.range names.length do
    if 0 < n then
      let above := names.take n
      disk := FileTree.insert (← readAbove ("/" ++ "/".intercalate above)) above disk
  disk ← addTree disk root
  let vendor := Workspace.vendorPath disk root
  if names.isPrefixOf (namesOf vendor) then return disk
  else addTree disk vendor

/-- The text of the user's own configuration file. -/
def readUserConfig : IO (Option String) := do
  let fromHome := (← IO.getEnv "HOME").map fun home => home ++ "/.config"
  match (← IO.getEnv "XDG_CONFIG_HOME").or fromHome with
  | some directory =>
    match ← readContents (directory ++ "/phake-lsp/config.toml") with
    | .text contents => return some contents
    | .binary _ => return none
  | none => return none

/-- The files of the project at `root`, and the user's settings. -/
def readEnvironment (root : Option Path) : IO Environment := do
  let disk ←
    match root with
    | some root => readProject root
    | none => pure (.directory [])
  return { disk := disk, userConfig := ← readUserConfig }

/-! ### The server -/

/-- The length a header announces. -/
def contentLength? (line : String) : Option Nat :=
  let digits := (Text.dropPrefix? "content-length:" (Text.lower line)).map fun rest =>
    (Text.trimBoth Text.isBlank rest).toList
  digits.bind fun ds => if ds.all Char.isDigit then some (Text.decimalValue ds) else none

/-- Reads the headers of a message up to the empty line behind them; nothing comes of the end of the
input. -/
partial def readHeaders (input : IO.FS.Stream) (length : Nat) : IO (Option Nat) := do
  let line ← input.getLine
  if line.isEmpty then return none
  else if Text.trimBoth Text.isBlank line == "" then return some length
  else readHeaders input ((contentLength? line).getD length)

/-- Reads bytes until there are enough of them. -/
partial def readBytes (input : IO.FS.Stream) (missing : Nat) (read : ByteArray) : IO ByteArray := do
  if missing = 0 then return read
  let bytes ← input.read (USize.ofNat missing)
  if bytes.isEmpty then return read
  else readBytes input (missing - bytes.size) (read ++ bytes)

/-- Sends a message. -/
def send (output : IO.FS.Stream) (message : Json) : IO Unit := do
  let body := message.compact
  output.putStr ("Content-Length: " ++ toString body.utf8ByteSize ++ "\r\n\r\n" ++ body)
  output.flush

/-- Answers messages until the input or the conversation ends; a scan is finished before the next
message is read. -/
partial def serve (input output : IO.FS.Stream) (server : Server) : IO Unit := do
  match ← readHeaders input 0 with
  | none => return
  | some length =>
    let bytes ← readBytes input length ByteArray.empty
    let body := (Utf8.decode bytes.toList).getD ""
    let env ← readEnvironment (server.rootRead body)
    let (server, messages) := server.receive env body
    for message in messages do
      send output message
    let (server, messages) := server.settleAll env
    for message in messages do
      send output message
    if server.phase == .exited then return
    else serve input output server

/-! ### Commands -/

/-- The files a report reads. -/
def readForInspection (here : Path) (file : String) (workspace : Option String) :
    IO Environment := do
  let place := (here.join file).resolved
  let root := ((workspace.map fun w => (here.join w).resolved).getD place.parent)
  let env ← readEnvironment (some root)
  return { env with disk := ← addTree env.disk place }

end MockLens.Main

/-- Reads the arguments, runs the command and prints its outcome. -/
def main (arguments : List String) : IO UInt32 := do
  let here : MockLens.Path := ⟨(← IO.currentDir).toString⟩
  let env ←
    match MockLens.Command.parse? arguments with
    | some (.inspect file workspace _) => MockLens.Main.readForInspection here file workspace
    | _ => pure {}
  let outcome := MockLens.Command.run env here arguments
  IO.print outcome.output
  for line in outcome.errors do
    IO.eprintln line
  if MockLens.Command.parse? arguments == some .serve then
    MockLens.Main.serve (← IO.getStdin) (← IO.getStdout) {}
  return UInt32.ofNat outcome.exitCode
