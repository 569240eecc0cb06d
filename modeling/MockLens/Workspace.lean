/-
**The workspace: the source files of a project.**

A scan lists the source files below a root, leaving out directories by name and whatever ignore
files leave out.  The directory of third-party packages is usually left out by the rules of the
project's repository and holds the mocking library itself, so it is walked a second time without
these rules.

Main definitions:

* `Workspace.vendorPath` — the directory of third-party packages;
* `Workspace.walk` — the source files below a directory;
* `Workspace.sourceFiles` — those of a project, each once and in the order of their paths;
* `Workspace.scan`, `Workspace.indexInto` — their declarations, and adding them to an index.
-/
import MockLens.Document
import MockLens.Ignore
import MockLens.Index
import MockLens.Json.Parser
import MockLens.Uri

set_option autoImplicit false

namespace MockLens.Workspace

/-! ### The directory of third-party packages -/

/-- The name a package description gives that directory. -/
def vendorName? (description : String) : Option String :=
  ((((Json.parse? description).bind (·.field? "config")).bind (·.field? "vendor-dir")).bind
    Json.string?).map (Text.trimEnd (· == '/'))

/-- The directory of third-party packages of the project at `root`. -/
def vendorPath (disk : FileTree) (root : Path) : Path :=
  match disk.readText (root.join "composer.json") with
  | .ok description => root.join ((vendorName? description).getD "vendor")
  | .error _ => root.join "vendor"

/-! ### Walking -/

/-- A file with its contents. -/
abbrev SourceFile := Path × FileContents

/-- The file at a path, if its name is that of a source file. -/
def sourceFile (path : Path) (contents : FileContents) : List SourceFile :=
  if path.fileName.any (Path.nameHasExtension "php") then [(path, contents)] else []

mutual

/-- The source files in a tree.  Directories with names in `exclude` and entries that the layers
leave out are skipped; the tree itself never is. -/
def walk (withGit : Bool) (exclude : List String) (layers : List Ignore.Layer) (path : Path) :
    FileTree → List SourceFile
  | .file contents => sourceFile path contents
  | .directory entries =>
    walkEntries withGit exclude (Ignore.Layer.ofEntries withGit entries :: layers) path entries

/-- The source files in the entries of a directory. -/
def walkEntries (withGit : Bool) (exclude : List String) (layers : List Ignore.Layer)
    (path : Path) : List (String × FileTree) → List SourceFile
  | [] => []
  | (name, tree) :: rest =>
    let isDirectory := tree.isDirectory
    let below :=
      if Ignore.leavesOut layers name isDirectory || (isDirectory && exclude.contains name) then []
      else walk withGit exclude (layers.map (Ignore.Layer.enter name)) (path.join name) tree
    below ++ walkEntries withGit exclude layers path rest

end

/-- The layers of the directories above a place, the nearest first. -/
def layersAbove (layers : List Ignore.Layer) : FileTree → List Path.Step → List Ignore.Layer
  | .directory entries, .into name :: steps =>
    let layers := (Ignore.Layer.ofEntries true entries :: layers).map (Ignore.Layer.enter name)
    match entries.lookup name with
    | some below => layersAbove layers below steps
    | none => layers
  | _, _ => layers

/-- Drops each file that is at the same place as the one before it. -/
def dropRepeated : List (List Path.Step × SourceFile) → List SourceFile
  | a :: b :: rest =>
    if a.1 == b.1 then dropRepeated (a :: rest) else a.2 :: dropRepeated (b :: rest)
  | [a] => [a.2]
  | [] => []

/-- The files in the order of their paths, each place once. -/
def inOrder (files : List SourceFile) : List SourceFile :=
  dropRepeated <|
    (files.map fun f => (f.1.steps, f)).mergeSort fun a b => !Path.stepsBefore b.1 a.1

/-- The source files in the directory of third-party packages, unless its own name is excluded. -/
def vendorFiles (disk : FileTree) (root : Path) (exclude : List String) : List SourceFile :=
  let vendor := vendorPath disk root
  match disk.find vendor with
  | .ok (.directory entries) =>
    if vendor.fileName.any exclude.contains then []
    else walk false exclude [] vendor (.directory entries)
  | _ => []

/-- The source files of the project at `root`, which must exist. -/
def sourceFiles (disk : FileTree) (root : Path) (exclude : List String) :
    Except PathError (List SourceFile) :=
  match disk.find root with
  | .error cause => .error ⟨root, cause⟩
  | .ok tree =>
    let layers := layersAbove [] disk root.resolved.steps
    .ok (inOrder (walk true exclude layers root tree ++ vendorFiles disk root exclude))

/-! ### Scanning -/

/-- The declarations of a file under its URI; a file that is no text has none. -/
def scanFile (file : SourceFile) : Option (String × List Declaration) :=
  match file.2 with
  | .text content =>
    let uri := Uri.ofPath file.1
    some (uri, declarationsOfText uri content)
  | .binary _ => none

/-- The declarations of every source file of a project. -/
def scan (disk : FileTree) (root : Path) (exclude : List String) :
    Except PathError (List (String × List Declaration)) :=
  (sourceFiles disk root exclude).map fun files => files.filterMap scanFile

/-- Adds the files of a project to an index, those in `skip` left out; the answer tells how many
were added. -/
def indexInto (ix : Index) (disk : FileTree) (root : Path) (exclude skip : List String) :
    Except PathError (Index × Nat) :=
  (scan disk root exclude).map fun files =>
    let added := files.filter fun f => !skip.contains f.1
    (ix.extend added, added.length)

end MockLens.Workspace
