/-
**The shapes that messages share.**

Main definitions:

* `Shape.required`, `Shape.optional`, `Shape.free` — fields of records;
* `Shape.position`, `Shape.range`, `Shape.document`, … — the records that many messages hold;
* `Shape.progress`, `Shape.partials` — the parts by which a request follows its own progress.
-/
import MockLens.Shape

set_option autoImplicit false

namespace MockLens

namespace Shape

/-! ### Fields -/

/-- A field that must be there. -/
def required (name : String) (shape : Shape) : Field := (name, .required, shape)

/-- A field that may be null or missing from an object. -/
def optional (name : String) (shape : Shape) : Field := (name, .optional, .option shape)

/-- A field that may be null or missing. -/
def free (name : String) (shape : Shape) : Field := (name, .free, .option shape)

/-- Fields that hold truth values and may be null or missing. -/
def switches (names : List String) : List Field := names.map fun name => optional name .bool

/-! ### Numbers -/

/-- A natural number of 32 bits. -/
def natural : Shape := .integer "u32" 0 4294967295

/-- An integer of 32 bits. -/
def int : Shape := .integer "i32" (-2147483648) 2147483647

/-- A number or a text. -/
def numberOrText : Shape := .either "NumberOrString" [int, .text]

/-! ### Places -/

/-- A position in a document. -/
def position : Shape :=
  .record "Position" [required "line" natural, required "character" natural]

/-- A range of a document. -/
def range : Shape := .record "Range" [required "start" position, required "end" position]

/-- A range of a document that is named. -/
def location : Shape := .record "Location" [required "uri" .uri, required "range" range]

/-- The name of a document. -/
def document : Shape := .record "TextDocumentIdentifier" [required "uri" .uri]

/-- The name of a version of a document. -/
def versionedDocument : Shape :=
  .record "VersionedTextDocumentIdentifier" [required "uri" .uri, required "version" int]

/-- A position in a document that is named. -/
def place : Shape :=
  .record "TextDocumentPositionParams"
    [required "textDocument" document, required "position" position]

/-! ### Progress -/

/-- The mark under which progress on a request is reported. -/
def progress : Shape :=
  .record "WorkDoneProgressParams" [optional "workDoneToken" numberOrText]

/-- The mark under which parts of a result are reported. -/
def partials : Shape :=
  .record "PartialResultParams" [optional "partialResultToken" numberOrText]

/-! ### Contents -/

/-- The kinds of formatted text. -/
def markupKind : Shape := .word ["plaintext", "markdown"]

/-- Text with or without its kind; the name differs from one use to another. -/
def prose (title : String) : Shape :=
  .either title
    [.text, .record "MarkupContent" [required "kind" markupKind, required "value" .text]]

/-- A command of an editor. -/
def command : Shape :=
  .record "Command"
    [required "title" .text, required "command" .text, optional "arguments" (.list .any)]

/-- A replacement of a range. -/
def textEdit : Shape := .record "TextEdit" [required "range" range, required "newText" .text]

/-- A diagnostic. -/
def diagnostic : Shape :=
  .record "Diagnostic"
    [required "range" range, optional "severity" int, optional "code" numberOrText,
      optional "codeDescription" (.record "CodeDescription" [required "href" .uri]),
      optional "source" .text, required "message" .text,
      optional "relatedInformation"
        (.list (.record "DiagnosticRelatedInformation"
          [required "location" location, required "message" .text])),
      optional "tags" (.list int), optional "data" .any]

/-- A directory of a workspace. -/
def workspaceFolder : Shape :=
  .record "WorkspaceFolder" [required "uri" .uri, required "name" .text]

end Shape

end MockLens
