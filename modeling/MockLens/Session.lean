/-
**Sessions: what an editor has told and asked.**

A session keeps the texts of the open documents, what was read from them, the index of the project
and the settings.  Everything an editor tells is a function from a session to a session, and
everything it asks is a function of a session.

A scan of the workspace has two halves, because documents may be opened, changed and closed while
it runs: it begins with the settings and the open documents of that moment, and when it is finished
its files are added to the index as it is then.

Main definitions:

* `Environment` — the files a session can see, and the settings of the user;
* `Session` — the state;
* `Session.openDocument`, `Session.changeDocument`, `Session.closeDocument` — what happens to
  documents;
* `Session.beginScan`, `Session.finishScan`, `Session.settleScan`, `Session.indexWorkspace` — the
  scan;
* `Session.attach`, `Session.forWorkspace` — the beginning;
* `Session.completion`, `Session.definition`, `Session.hover` — the questions.
-/
import MockLens.Completion
import MockLens.Config
import MockLens.Definition
import MockLens.Hover
import MockLens.Workspace

set_option autoImplicit false

namespace MockLens

/-- What a session can see of the machine it runs on. -/
structure Environment where
  disk : FileTree := .directory []
  /-- The text of the user's own configuration file. -/
  userConfig : Option String := none

/-- The settings for the project at `root`: the user's, overridden by the project's. -/
def Environment.loadConfig (env : Environment) (root : Option Path) : Config :=
  let ofProject :=
    match root.map fun r => env.disk.readText (r.join ".phake-lsp.toml") with
    | some (.ok text) => [text]
    | _ => []
  Config.load (env.userConfig.toList ++ ofProject)

/-- The state of a session; documents are named by URIs. -/
structure Session where
  root : Option Path := none
  config : Config := {}
  /-- The texts of the open documents. -/
  texts : Std.TreeMap String String := {}
  /-- What was read from the open documents. -/
  documents : Std.TreeMap String Document := {}
  index : Index := {}

namespace Session

/-! ### Documents -/

/-- Reads a text: its declarations replace those the index has for the document. -/
def readDocument (s : Session) (uri text : String) : Session :=
  let doc := Document.ofText uri text
  { s with
    index := s.index.update uri doc.symbols.declarations
    documents := s.documents.insert uri doc }

/-- A document is opened with a text. -/
def openDocument (s : Session) (uri text : String) : Session :=
  { s with texts := s.texts.insert uri text }.readDocument uri text

/-- A document gets a new text, the first of those sent. -/
def changeDocument (s : Session) (uri : String) (texts : List String) : Session :=
  match texts with
  | text :: _ => s.openDocument uri text
  | [] => s

/-- A document is closed; the index keeps its declarations. -/
def closeDocument (s : Session) (uri : String) : Session :=
  { s with texts := s.texts.erase uri, documents := s.documents.erase uri }

/-! ### Scans -/

/-- A scan that has begun. -/
structure Scan where
  root : Path
  exclude : List String
  /-- The documents that were open when it began; they keep the declarations of the editor. -/
  skip : List String
  deriving DecidableEq, Repr

/-- Begins a scan, if there is a root. -/
def beginScan (s : Session) : Option Scan :=
  s.root.map fun root => ⟨root, s.config.exclude, s.texts.keys⟩

/-- Finishes a scan: the answer tells how many files were added. -/
def finishScan (s : Session) (disk : FileTree) (scan : Scan) : Except PathError (Session × Nat) :=
  (Workspace.indexInto s.index disk scan.root scan.exclude scan.skip).map fun (index, count) =>
    ({ s with index := index }, count)

/-- Scans the workspace, if there is a root. -/
def indexWorkspace (s : Session) (disk : FileTree) : Except PathError (Session × Nat) :=
  match s.beginScan with
  | some scan => s.finishScan disk scan
  | none => .ok (s, 0)

/-! ### Beginning -/

/-- The editor names the project: its settings are loaded. -/
def attach (s : Session) (env : Environment) (rootUri : Option Uri) : Session :=
  let root := rootUri.bind Uri.filePath?
  { s with config := env.loadConfig root, root := root.or s.root }

/-- What the editor is told of a scan. -/
def Scan.message (scan : Scan) : Except PathError Nat → String
  | .ok count =>
    "phake-lsp initialized! Indexed " ++ toString count ++ " PHP file(s) under " ++ scan.root.text
  | .error e => "phake-lsp initialized, but the workspace scan failed: " ++ e.message

/-- Finishes a scan, whatever comes of it, and tells the editor. -/
def settleScan (s : Session) (disk : FileTree) (scan : Scan) : Session × String :=
  match s.finishScan disk scan with
  | .ok (s, count) => (s, scan.message (.ok count))
  | .error e => (s, scan.message (.error e))

/-- What the editor is told when there is nothing to scan. -/
def greeting : String := "phake-lsp initialized!"

/-- The scan that follows the beginning, with nothing in between, and what the editor is told of
it. -/
def firstScan (s : Session) (disk : FileTree) : Session × String :=
  match s.beginScan with
  | none => (s, greeting)
  | some scan => s.settleScan disk scan

/-- A session for the project at `root`, with its files indexed. -/
def forWorkspace (env : Environment) (root : Path) : Session :=
  (({ root := some root, config := env.loadConfig (some root) } : Session).firstScan env.disk).1

/-- The editor, or a command, changes the settings. -/
def setConfig (s : Session) (config : Config) : Session := { s with config := config }

/-! ### Questions -/

/-- The declarations a key stands for. -/
def resolveKey (s : Session) (key : String) : List Declaration :=
  s.index.resolveKey s.config.answerBinder key

/-- The declarations the keys among candidate types stand for. -/
def resolveTypes (s : Session) (types : List String) : List Declaration :=
  s.index.resolveTypes s.config.answerBinder types

/-- What was read from a document. -/
def analysisOf (s : Session) (uri : String) : Option Analysis :=
  s.documents[uri]?.map Document.analysis

/-- What may be typed at a position of an open document. -/
def completion (s : Session) (uri : String) (position : Position) :
    Option (List CompletionItem) :=
  match s.texts[uri]? with
  | some text => s.index.completions s.config.answerBinder s.documents[uri]? text position
  | none => none

/-- The places the name at a position of an open document refers to. -/
def definition (s : Session) (uri : String) (position : Position) : List Location :=
  match s.texts[uri]?, s.analysisOf uri with
  | some text, some analysis =>
    s.index.definitions s.config.answerBinder analysis (position.offset text.toList)
  | _, _ => []

/-- What is known of the expression at a position of an open document. -/
def hover (s : Session) (uri : String) (position : Position) : Option Hover :=
  match s.texts[uri]?, s.analysisOf uri with
  | some text, some analysis =>
    s.index.hover s.config.answerBinder analysis text.toList (position.offset text.toList)
  | _, _ => none

end Session

end MockLens
