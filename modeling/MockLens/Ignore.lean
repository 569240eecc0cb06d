/-
**Ignore files: the parts of a tree that a scan leaves out.**

A directory may hold files of rules, one a line, that leave out entries below it or take them back
in: `.ignore` always counts, and `.gitignore` and `.git/info/exclude` count inside a repository.
The last rule of a file that matches decides; of several files of one kind the nearest decides; and
of the kinds, in this order, the first with a matching rule.

Main definitions:

* `Ignore.Rule`, `Ignore.Rule.parse?` — a rule, and reading its line;
* `Ignore.Layer`, `Ignore.Layer.ofEntries` — the rules of a directory;
* `Ignore.leavesOut` — an entry is left out.
-/
import MockLens.FileTree
import MockLens.Ignore.Glob

set_option autoImplicit false

namespace MockLens.Ignore

/-! ### Rules -/

/-- A line of a file of rules. -/
structure Rule where
  pattern : Glob
  /-- The rule takes entries back in. -/
  takesBack : Bool
  onlyDirectories : Bool

/-- A blank of any script. -/
def isBlankAnywhere (c : Char) : Bool :=
  let n := c.toNat
  (9 ≤ n && n ≤ 13) || n == 0x20 || n == 0x85 || n == 0xA0 || n == 0x1680 ||
    (0x2000 ≤ n && n ≤ 0x200A) || n == 0x2028 || n == 0x2029 || n == 0x202F || n == 0x205F ||
    n == 0x3000

/-- A list ends in another. -/
def endsIn (last cs : List Char) : Bool := (Text.dropPrefixChars? last.reverse cs.reverse).isSome

/-- The line without the blanks at its end, unless the last of them is escaped. -/
def trimLine (cs : List Char) : List Char :=
  if endsIn ['\\', ' '] cs then cs else Text.trimEndChars isBlankAnywhere cs

/-- The pattern of a rule: one without a slash may match in any directory below, and one that ends
in a double star matches what is inside a directory but not the directory. -/
def widen (anchored : Bool) (cs : List Char) : List Char :=
  let startsWide := cs == ['*', '*'] || (Text.dropPrefixChars? ['*', '*', '/'] cs).isSome
  let wide := if anchored || cs.contains '/' || startsWide then cs else '*' :: '*' :: '/' :: cs
  if endsIn ['/', '*', '*'] wide then wide ++ ['/', '*'] else wide

/-- Reads what stands behind the marks at the front of a rule. -/
def Rule.ofBody? (takesBack anchored : Bool) (cs : List Char) : Option Rule :=
  let onlyDirectories := cs.getLast? == some '/'
  let body := if onlyDirectories then cs.dropLast else cs
  let body := if onlyDirectories && body.getLast? == some '\\' then body.dropLast else body
  (Glob.parse? (widen anchored body)).map fun pattern => ⟨pattern, takesBack, onlyDirectories⟩

/-- Reads a line; comments, empty lines and malformed patterns are no rules. -/
def Rule.parse? (line : List Char) : Option Rule :=
  match trimLine line with
  | [] => none
  | '\\' :: '!' :: cs => ofBody? false false ('!' :: cs)
  | '\\' :: '#' :: cs => ofBody? false false ('#' :: cs)
  | '!' :: '/' :: cs => ofBody? true true cs
  | '!' :: cs => ofBody? true false cs
  | '/' :: cs => ofBody? false true cs
  | cs => if line.head? == some '#' then none else ofBody? false false cs

/-- The lines of a text, without their line ends. -/
def lines (text : String) : List (List Char) :=
  (Text.splitChars '\n' text.toList).map fun line =>
    if line.getLast? == some '\r' then line.dropLast else line

/-- The rules of a file, the last first.  Marks of the byte order in front of them do not count. -/
def rulesOf (contents : FileContents) : List Rule :=
  let text :=
    match contents with
    | .text s => s
    | .binary s => s
  let all :=
    match lines text with
    | first :: rest => first.dropWhile (· == '\ufeff') :: rest
    | [] => []
  let whole :=
    match contents with
    | .text _ => all
    | .binary _ => all.dropLast
  (whole.filterMap Rule.parse?).reverse

/-- What rules, the last first, say of a path: left out, taken back in, or nothing. -/
def verdict (rules : List Rule) (isDirectory : Bool) (path : List UInt8) : Option Bool :=
  (rules.find? fun r =>
    (isDirectory || !r.onlyDirectories) && r.pattern.matchesPath path).map fun r => !r.takesBack

/-! ### Layers -/

/-- The rules of a directory. -/
structure Layer where
  ignoreRules : List Rule := []
  gitRules : List Rule := []
  excludeRules : List Rule := []
  /-- The directory is the root of a repository. -/
  isRepository : Bool := false
  /-- The names of the directories between this one and the place reached. -/
  names : List String := []

/-- The rules of the file with the given name. -/
def rulesIn (entries : List (String × FileTree)) (name : String) : List Rule :=
  match entries.lookup name with
  | some (.file contents) => rulesOf contents
  | _ => []

/-- The names of entries that only the root of a repository has. -/
def repositoryNames : List String := [".git", ".jj"]

/-- The rules of a directory; those of its repository only if asked for. -/
def Layer.ofEntries (withGit : Bool) (entries : List (String × FileTree)) : Layer :=
  let exclude :=
    match FileTree.follow [] (.directory entries) [.into ".git", .into "info", .into "exclude"] with
    | .ok (.file contents) => rulesOf contents
    | _ => []
  { ignoreRules := rulesIn entries ".ignore"
    gitRules := if withGit then rulesIn entries ".gitignore" else []
    excludeRules := if withGit then exclude else []
    isRepository := withGit && repositoryNames.any fun name => (entries.lookup name).isSome }

/-- The layer seen from a directory below the place reached. -/
def Layer.enter (name : String) (l : Layer) : Layer := { l with names := l.names ++ [name] }

/-- The bytes of the path from a layer's directory to an entry of the place reached. -/
def Layer.pathTo (l : Layer) (name : String) : List UInt8 :=
  Utf8.encode ("/".intercalate (l.names ++ [name])).toList

/-- The layers up to the nearest that is the root of a repository; none without one. -/
def insideRepository : List Layer → List Layer
  | [] => []
  | l :: ls =>
    if l.isRepository then [l]
    else if (insideRepository ls).isEmpty then []
    else l :: insideRepository ls

/-- An entry of the place reached is left out; the layers stand nearest first. -/
def leavesOut (layers : List Layer) (name : String) (isDirectory : Bool) : Bool :=
  let judge (rules : Layer → List Rule) (ls : List Layer) : Option Bool :=
    ls.findSome? fun l => verdict (rules l) isDirectory (l.pathTo name)
  let repository := insideRepository layers
  ((judge Layer.ignoreRules layers).or
    ((judge Layer.gitRules repository).or (judge Layer.excludeRules repository))).getD false

end MockLens.Ignore
