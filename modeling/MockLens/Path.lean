/-
**Paths: the names of files and directories.**

A path is kept as it is written, because messages show it so; two paths are the same place when
their steps are, and paths are sorted by their steps.

Main definitions:

* `Path`, `Path.Step` — a path, and a step of it;
* `Path.steps`, `Path.stepsBefore` — its steps, and the order by them;
* `Path.join`, `Path.parent`, `Path.resolved`, `Path.fileName`, `Path.nameHasExtension` — building
  paths and taking them apart.
-/
import MockLens.Text

set_option autoImplicit false

namespace MockLens

/-- A path as it is written; one that starts with a slash is absolute. -/
structure Path where
  text : String
  deriving DecidableEq, Repr

namespace Path

/-- A step of a path: to the parent directory, or to an entry of a directory. -/
inductive Step where
  | up
  | into (name : String)
  deriving DecidableEq, Repr

namespace Step

/-- The name of a step. -/
def text : Step → String
  | up => ".."
  | into name => name

/-- The order of steps: to the parent first, then by name. -/
def before : Step → Step → Bool
  | up, up => false
  | up, into _ => true
  | into _, up => false
  | into a, into b => a < b

end Step

/-- The path starts at the root of the file system. -/
def isAbsolute (p : Path) : Bool := Text.startsWith "/" p.text

/-- The steps of a path; repeated slashes and the name of the directory itself are none. -/
def steps (p : Path) : List Step :=
  (Text.split '/' p.text).filterMap fun name =>
    if name == "" || name == "." then none
    else some (if name == ".." then .up else .into name)

/-- The order of paths by their steps: at the first difference, and a path before those below it. -/
def stepsBefore : List Step → List Step → Bool
  | _, [] => false
  | [], _ :: _ => true
  | a :: as, b :: bs => a.before b || (a == b && stepsBefore as bs)

/-- The path of what `name` is called from a directory; an absolute name is its own path. -/
def join (p : Path) (name : String) : Path :=
  if Text.startsWith "/" name || p.text == "" then ⟨name⟩
  else if p.text.toList.getLast? == some '/' then ⟨p.text ++ name⟩
  else ⟨p.text ++ "/" ++ name⟩

/-- The absolute path with the given steps. -/
def ofSteps (steps : List Step) : Path :=
  match steps with
  | [] => ⟨"/"⟩
  | _ => ⟨String.join (steps.map fun s => "/" ++ s.text)⟩

/-- The directory an absolute path is in; the root is in itself. -/
def parent (p : Path) : Path := ofSteps p.steps.dropLast

/-- Takes back a step for every step to the parent; the root is its own parent. -/
def resolveSteps : List Step → List Step → List Step
  | taken, [] => taken.reverse
  | taken, .up :: rest => resolveSteps taken.tail rest
  | taken, .into name :: rest => resolveSteps (.into name :: taken) rest

/-- The path of the same place, where no links are, without steps to the parent. -/
def resolved (p : Path) : Path := ofSteps (resolveSteps [] p.steps)

/-- The name of the last step. -/
def fileName (p : Path) : Option String :=
  match p.steps.getLast? with
  | some (.into name) => some name
  | _ => none

/-- A file name ends in a dot and `extension`, and something stands before them. -/
def nameHasExtension (extension name : String) : Bool :=
  match Text.cutLast '.' name with
  | some (stem, rest) => stem != "" && rest == extension
  | none => false

end Path

end MockLens
