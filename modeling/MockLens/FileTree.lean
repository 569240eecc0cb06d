/-
**File trees: the files and directories a scan can see.**

Main definitions:

* `FileContents`, `FileContents.ofBytes` — what a file holds;
* `FileTree` — a file, or a directory with its entries;
* `FileError`, `PathError` — why a path cannot be read;
* `FileTree.find`, `FileTree.readText` — what is at a path, and the text there;
* `FileTree.insert` — putting a file or directory at a path.
-/
import MockLens.Path
import MockLens.Text.Utf8

set_option autoImplicit false

namespace MockLens

/-! ### Contents -/

/-- What a file holds: a text or, if its bytes are none, the text before the first byte that does
not belong there. -/
inductive FileContents where
  | text (contents : String)
  | binary (beginning : String)
  deriving DecidableEq, Repr

/-- The contents a sequence of bytes makes. -/
def FileContents.ofBytes (bytes : List UInt8) : FileContents :=
  match Utf8.read bytes with
  | (contents, true) => .text contents
  | (beginning, false) => .binary beginning

/-! ### Trees -/

/-- A file, or a directory with its entries. -/
inductive FileTree where
  | file (contents : FileContents)
  | directory (entries : List (String × FileTree))

/-- Why a path cannot be read. -/
inductive FileError where
  | notFound
  | notDirectory
  | isDirectory
  | notText
  deriving DecidableEq, Repr

/-- The words of the operating system for an error. -/
def FileError.message : FileError → String
  | notFound => "No such file or directory (os error 2)"
  | notDirectory => "Not a directory (os error 20)"
  | isDirectory => "Is a directory (os error 21)"
  | notText => "stream did not contain valid UTF-8"

/-- A path that cannot be read. -/
structure PathError where
  path : Path
  cause : FileError
  deriving DecidableEq, Repr

/-- The text of an error. -/
def PathError.message (e : PathError) : String :=
  "I/O error on " ++ e.path.text ++ ": " ++ e.cause.message

namespace FileTree

/-- The tree is a directory. -/
def isDirectory : FileTree → Bool
  | directory _ => true
  | file _ => false

/-- Follows steps from `here`; `above` are the directories around it, the nearest first. -/
def follow : List FileTree → FileTree → List Path.Step → Except FileError FileTree
  | _, here, [] => .ok here
  | _, file _, _ :: _ => .error .notDirectory
  | [], directory entries, .up :: steps => follow [] (directory entries) steps
  | parent :: above, directory _, .up :: steps => follow above parent steps
  | above, directory entries, .into name :: steps =>
    match entries.lookup name with
    | some below => follow (directory entries :: above) below steps
    | none => .error .notFound

/-- A path is written like that of a directory: nothing or a dot stands behind its last slash. -/
def endsInDirectory (path : Path) : Bool := ["", "."].contains (Text.afterLast '/' path.text)

/-- What is at an absolute path; `tree` is the root of the file system. -/
def find (tree : FileTree) (path : Path) : Except FileError FileTree :=
  match follow [] tree path.steps with
  | .ok (file contents) =>
    if endsInDirectory path then .error .notDirectory else .ok (file contents)
  | result => result

/-- The text of the file at an absolute path. -/
def readText (tree : FileTree) (path : Path) : Except FileError String :=
  match tree.find path with
  | .ok (file (.text contents)) => .ok contents
  | .ok (file (.binary _)) => .error .notText
  | .ok (directory _) => .error .isDirectory
  | .error e => .error e

/-- Replaces an entry, or appends it. -/
def putEntry (name : String) (below : FileTree) :
    List (String × FileTree) → List (String × FileTree)
  | [] => [(name, below)]
  | e :: es => if e.1 == name then (name, below) :: es else e :: putEntry name below es

/-- Puts a file or directory at the end of a list of names; directories on the way are made where
there are none. -/
def insert (leaf : FileTree) : List String → FileTree → FileTree
  | [], directory entries =>
    match leaf with
    | directory [] => directory entries
    | leaf => leaf
  | [], file _ => leaf
  | name :: names, tree =>
    let entries :=
      match tree with
      | directory entries => entries
      | file _ => []
    let below := (entries.lookup name).getD (directory [])
    directory (putEntry name (insert leaf names below) entries)

end FileTree

end MockLens
