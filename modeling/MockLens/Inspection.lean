/-
**Inspection: a report on the calls of one file.**

Main definitions:

* `Inspection`, `Inspection.Entry` — the report, with an entry for each call that has a key;
* `Inspection.run` — the report on a file within a workspace;
* `Inspection.text`, `Inspection.toJson` — the report as lines of text and as JSON.
-/
import MockLens.Json.Printer
import MockLens.Session

set_option autoImplicit false

namespace MockLens

/-- A call that has a key. -/
structure Inspection.Entry where
  /-- The line and column of the method's name, counted from one. -/
  line : Nat
  column : Nat
  method : String
  signature : String
  kind : String
  key : String
  /-- The declarations the key stands for, each with its keyword. -/
  resolved : List String
  deriving DecidableEq, Repr

/-- The report on a file. -/
structure Inspection where
  file : String
  indexedFiles : Nat
  entries : List Inspection.Entry
  deriving DecidableEq, Repr

namespace Inspection

/-- The entry for a call of a text. -/
def entryOf (session : Session) (content : List Char) (call : Call) : Option Entry :=
  call.key.map fun key =>
    let position := Position.ofOffset content call.nameSpan.start
    { line := position.line + 1
      column := position.character + 1
      method := call.method
      signature := call.signature
      kind := ((Tag.ofKey key).map Tag.label).getD "unknown"
      key := key
      resolved := (session.resolveKey key).map fun d => d.kind.keyword ++ " " ++ d.fqn }

/-- The place of an existing path, without steps to parents. -/
def existing (disk : FileTree) (path : Path) : Except FileError Path :=
  (disk.find path).map fun _ => path.resolved

/-- The report on a file within a workspace, by default the directory of the file.  Both paths are
looked up from the directory `here`, and errors show them as they are given. -/
def run (env : Environment) (here file : Path) (workspace : Option Path) :
    Except PathError Inspection := do
  let given (p : Path) : Except PathError Path :=
    (existing env.disk (here.join p.text)).mapError fun cause => ⟨p, cause⟩
  let place ← given file
  let text ← (env.disk.readText place).mapError fun cause => ⟨place, cause⟩
  let root ←
    match workspace with
    | some w => given w
    | none => pure place.parent
  let uri := Uri.ofPath place
  let session := (Session.forWorkspace env root).readDocument uri text
  let calls := ((session.analysisOf uri).map Analysis.virtualCalls).getD []
  return ⟨place.text, session.index.fileCount, calls.filterMap (entryOf session text.toList)⟩

/-- The lines of an entry. -/
def Entry.lines (e : Entry) : List String :=
  let place := toString e.line ++ ":" ++ toString e.column
  let targets :=
    match e.resolved with
    | [] => ["      (unresolved)"]
    | resolved => resolved.map fun d => "      -> " ++ d
  ("  " ++ place ++ " " ++ e.method ++ " [" ++ e.kind ++ "] " ++ e.key) :: targets

/-- The report as lines of text. -/
def text (report : Inspection) : String :=
  let head :=
    report.file ++ ": " ++ toString report.entries.length ++ " virtual call(s), " ++
      toString report.indexedFiles ++ " indexed file(s)"
  String.join ((head :: report.entries.flatMap Entry.lines).map fun line => line ++ "\n")

/-- An entry as a JSON object. -/
def Entry.toJson (e : Entry) : Json :=
  .object
    [("line", .ofNat e.line), ("column", .ofNat e.column), ("method", .string e.method),
      ("signature", .string e.signature), ("kind", .string e.kind), ("key", .string e.key),
      ("resolved", .ofStrings e.resolved)]

/-- The report as a JSON object. -/
def toJson (report : Inspection) : Json :=
  .object
    [("file", .string report.file), ("indexed_files", .ofNat report.indexedFiles),
      ("calls", .array (report.entries.map Entry.toJson))]

end Inspection

end MockLens
