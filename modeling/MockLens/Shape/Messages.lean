/-
**The shapes of the parameters of each message.**

Main definitions:

* `Shape.opened`, `Shape.changed`, `Shape.closed` — the parameters of the messages about documents;
* `Shape.completion`, `Shape.goto`, `Shape.hover` — those of the questions that are answered;
* `Shape.requests`, `Shape.notifications` — those of the messages that are only read.
-/
import MockLens.Shape.Element

set_option autoImplicit false

namespace MockLens

namespace Shape

/-! ### Documents -/

/-- A document that is opened. -/
def opened : Shape :=
  .record "DidOpenTextDocumentParams"
    [required "textDocument"
      (.record "TextDocumentItem"
        [required "uri" .uri, required "languageId" .text, required "version" int,
          required "text" .text])]

/-- A document that is changed. -/
def changed : Shape :=
  .record "DidChangeTextDocumentParams"
    [required "textDocument" versionedDocument,
      required "contentChanges"
        (.list (.record "TextDocumentContentChangeEvent"
          [optional "range" range, optional "rangeLength" natural, required "text" .text]))]

/-- A document that is closed. -/
def closed : Shape :=
  .record "DidCloseTextDocumentParams" [required "textDocument" document]

/-! ### Questions about a place -/

/-- A question about a place, with fields of its own. -/
def question (title : String) (fields : List Field) : Shape :=
  .merged title fields [place, progress, partials]

/-- A question about a place that is answered at once. -/
def quickQuestion (title : String) : Shape := .merged title [] [place, progress]

/-- A question for completions. -/
def completion : Shape :=
  question "CompletionParams"
    [optional "context"
      (.record "CompletionContext"
        [required "triggerKind" int, optional "triggerCharacter" .text])]

/-- A question for the place a name leads to. -/
def goto : Shape := question "GotoDefinitionParams" []

/-- A question for a hover text. -/
def hover : Shape := quickQuestion "HoverParams"

/-- A question for the signature of a call. -/
def signatureHelp : Shape :=
  let documentation := optional "documentation" (prose "Documentation")
  let parameter :=
    .record "ParameterInformation"
      [required "label"
          (.either "ParameterLabel"
            [.text, .record "LabelOffsets" [required "0" natural, required "1" natural]]),
        documentation]
  let signature :=
    .record "SignatureInformation"
      [required "label" .text, documentation, optional "parameters" (.list parameter),
        optional "activeParameter" natural]
  .merged "SignatureHelpParams"
    [optional "context"
      (.record "SignatureHelpContext"
        [required "triggerKind" int, optional "triggerCharacter" .text,
          required "isRetrigger" .bool,
          optional "activeSignatureHelp"
            (.record "SignatureHelp"
              [required "signatures" (.list signature), optional "activeSignature" natural,
                optional "activeParameter" natural])])]
    [place, progress]

/-- A question for the uses of a name. -/
def references : Shape :=
  .merged "ReferenceParams"
    [required "context" (.record "ReferenceContext" [required "includeDeclaration" .bool])]
    [place, progress, partials]

/-- A request to change a name. -/
def rename : Shape := .merged "RenameParams" [required "newName" .text] [place, progress]

/-! ### Questions about a document -/

/-- A question about a document, with further fields. -/
def documentQuestion (title : String) (fields : List Field) : Shape :=
  .merged title (required "textDocument" document :: fields) [progress, partials]

/-- A request about actions on code. -/
def codeAction : Shape :=
  documentQuestion "CodeActionParams"
    [required "range" range,
      required "context"
        (.record "CodeActionContext"
          [required "diagnostics" (.list diagnostic), optional "only" (.list .text),
            optional "triggerKind" int])]

/-- A request about the ways to write a color. -/
def colorPresentation : Shape :=
  documentQuestion "ColorPresentationParams"
    [required "color"
        (.record "Color"
          [required "red" .real, required "green" .real, required "blue" .real,
            required "alpha" .real]),
      required "range" range]

/-- How documents are formatted; there may be options of any other name. -/
def formattingOptions : Field :=
  required "options"
    (.merged "FormattingOptions"
      ([required "tabSize" natural, required "insertSpaces" .bool] ++
        switches ["trimTrailingWhitespace", "insertFinalNewline", "trimFinalNewlines"])
      [.dictionary "a map" (.either "FormattingProperty" [.bool, int, .text])])

/-- A request to format a document. -/
def formatting : Shape :=
  .merged "DocumentFormattingParams"
    [required "textDocument" document, formattingOptions] [progress]

/-- A request to format a range. -/
def rangeFormatting : Shape :=
  .merged "DocumentRangeFormattingParams"
    [required "textDocument" document, required "range" range, formattingOptions] [progress]

/-- A request to format while the user types. -/
def onTypeFormatting : Shape :=
  .merged "DocumentOnTypeFormattingParams" [required "ch" .text, formattingOptions] [place]

/-- A request about hints between the tokens of a range. -/
def inlayHints : Shape :=
  .merged "InlayHintParams" [required "textDocument" document, required "range" range] [progress]

/-- A request about the values of the variables of a range. -/
def inlineValues : Shape :=
  .merged "InlineValueParams"
    [required "textDocument" document, required "range" range,
      required "context"
        (.record "InlineValueContext"
          [required "frameId" int, required "stoppedLocation" range])]
    [progress]

/-! ### Items that are filled in -/

/-- Options of the changes to a file. -/
def fileOptions (title : String) (names : List String) : Field :=
  optional "options" (.record title (switches names))

/-- A change to a file. -/
def fileChange (kind title : String) (uris options : List String) : Shape :=
  .record title
    (required "kind" (.word [kind]) :: uris.map (fun name => required name .uri) ++
      [fileOptions (title ++ "Options") options, optional "annotationId" .text])

/-- Edits of a document. -/
def documentEdit : Shape :=
  .record "TextDocumentEdit"
    [required "textDocument"
        (.record "OptionalVersionedTextDocumentIdentifier"
          [required "uri" .uri, optional "version" int]),
      required "edits"
        (.list (.either "OneOf"
          [textEdit, .merged "AnnotatedTextEdit" [required "annotationId" .text] [textEdit]]))]

/-- Edits of a workspace. -/
def workspaceEdit : Shape :=
  .record "WorkspaceEdit"
    [free "changes" (.dictionary "map" (.list textEdit)),
      optional "documentChanges"
        (.either "DocumentChanges"
          [.list documentEdit,
            .list (.either "DocumentChangeOperation"
              [fileChange "create" "CreateFile" ["uri"] ["overwrite", "ignoreIfExists"],
                fileChange "rename" "RenameFile" ["oldUri", "newUri"]
                  ["overwrite", "ignoreIfExists"],
                fileChange "delete" "DeleteFile" ["uri"] ["recursive", "ignoreIfNotExists"],
                documentEdit])]),
      optional "changeAnnotations"
        (.dictionary "a map" (.record "ChangeAnnotation"
          [required "label" .text, optional "needsConfirmation" .bool,
            optional "description" .text]))]

/-- An action on code. -/
def codeActionItem : Shape :=
  .record "CodeAction"
    [required "title" .text, optional "kind" .text, optional "diagnostics" (.list diagnostic),
      optional "edit" workspaceEdit, optional "command" command, optional "isPreferred" .bool,
      optional "disabled" (.record "CodeActionDisabled" [required "reason" .text]),
      optional "data" .any]

/-- A command shown at a place. -/
def codeLensItem : Shape :=
  .record "CodeLens" [required "range" range, optional "command" command, optional "data" .any]

/-- An offer to complete a text. -/
def completionItem : Shape :=
  let texts (names : List String) : List Field := names.map fun name => optional name .text
  .record "CompletionItem"
    ([required "label" .text,
        optional "labelDetails"
          (.record "CompletionItemLabelDetails" (texts ["detail", "description"])),
        optional "kind" int, optional "detail" .text,
        optional "documentation" (prose "Documentation")] ++
      switches ["deprecated", "preselect"] ++ texts ["sortText", "filterText", "insertText"] ++
      [optional "insertTextFormat" int, optional "insertTextMode" int,
        optional "textEdit"
          (.either "CompletionTextEdit"
            [textEdit,
              .record "InsertReplaceEdit"
                [required "newText" .text, required "insert" range, required "replace" range]]),
        optional "additionalTextEdits" (.list textEdit), optional "command" command,
        optional "commitCharacters" (.list .text), optional "data" .any,
        optional "tags" (.list int)])

/-- A link in a document. -/
def documentLinkItem : Shape :=
  .record "DocumentLink"
    [required "range" range, optional "target" .uri, optional "tooltip" .text,
      optional "data" .any]

/-- A hint between two tokens. -/
def inlayHintItem : Shape :=
  .record "InlayHint"
    ([required "position" position,
        required "label"
          (.either "InlayHintLabel"
            [.text,
              .list (.record "InlayHintLabelPart"
                [required "value" .text, optional "tooltip" (prose "InlayHintLabelPartTooltip"),
                  optional "location" location, optional "command" command])]),
        optional "kind" int, optional "textEdits" (.list textEdit),
        optional "tooltip" (prose "InlayHintTooltip")] ++
      switches ["paddingLeft", "paddingRight"] ++ [optional "data" .any])

/-- A symbol of a workspace. -/
def workspaceSymbolItem : Shape :=
  .record "WorkspaceSymbol"
    [required "name" .text, required "kind" int, optional "tags" (.list int),
      optional "containerName" .text,
      required "location"
        (.either "OneOf" [location, .record "WorkspaceLocation" [required "uri" .uri]]),
      optional "data" .any]

/-- A step in a hierarchy of calls or types, with its tags. -/
def hierarchyItem (title : String) (tags : Shape) : Field :=
  required "item"
    (.record title
      [required "name" .text, required "kind" int, optional "tags" tags, optional "detail" .text,
        required "uri" .uri, required "range" range, required "selectionRange" range,
        optional "data" .any])

/-- A request about the calls on either side of one. -/
def calls (title : String) : Shape :=
  .merged title [hierarchyItem "CallHierarchyItem" (.list int)] [progress, partials]

/-- A request about the types on either side of one. -/
def types (title : String) : Shape :=
  .merged title [hierarchyItem "TypeHierarchyItem" int] [progress, partials]

/-! ### Workspaces -/

/-- Files that are named as plain texts. -/
def files (title item : String) (names : List String) : Shape :=
  .record title
    [required "files" (.list (.record item (names.map fun name => required name .text)))]

/-- A request about the diagnostics of a workspace. -/
def workspaceDiagnostics : Shape :=
  .merged "WorkspaceDiagnosticParams"
    [optional "identifier" .text,
      required "previousResultIds"
        (.list (.record "PreviousResultId" [required "uri" .uri, required "value" .text]))]
    [progress, partials]

/-! ### All messages -/

/-- The requests that are only read, with their parameters. -/
def requests : List (String × Shape) :=
  let previous := optional "previousResultId" .text
  [("callHierarchy/incomingCalls", calls "CallHierarchyIncomingCallsParams"),
    ("callHierarchy/outgoingCalls", calls "CallHierarchyOutgoingCallsParams"),
    ("codeAction/resolve", codeActionItem), ("codeLens/resolve", codeLensItem),
    ("completionItem/resolve", completionItem), ("documentLink/resolve", documentLinkItem),
    ("inlayHint/resolve", inlayHintItem), ("textDocument/codeAction", codeAction),
    ("textDocument/codeLens", documentQuestion "CodeLensParams" []),
    ("textDocument/colorPresentation", colorPresentation), ("textDocument/declaration", goto),
    ("textDocument/diagnostic",
      documentQuestion "DocumentDiagnosticParams" [optional "identifier" .text, previous]),
    ("textDocument/documentColor", documentQuestion "DocumentColorParams" []),
    ("textDocument/documentHighlight", question "DocumentHighlightParams" []),
    ("textDocument/documentLink", documentQuestion "DocumentLinkParams" []),
    ("textDocument/documentSymbol", documentQuestion "DocumentSymbolParams" []),
    ("textDocument/foldingRange", documentQuestion "FoldingRangeParams" []),
    ("textDocument/formatting", formatting), ("textDocument/implementation", goto),
    ("textDocument/inlayHint", inlayHints), ("textDocument/inlineValue", inlineValues),
    ("textDocument/linkedEditingRange", quickQuestion "LinkedEditingRangeParams"),
    ("textDocument/moniker", question "MonikerParams" []),
    ("textDocument/onTypeFormatting", onTypeFormatting),
    ("textDocument/prepareCallHierarchy", quickQuestion "CallHierarchyPrepareParams"),
    ("textDocument/prepareRename", place),
    ("textDocument/prepareTypeHierarchy", quickQuestion "TypeHierarchyPrepareParams"),
    ("textDocument/rangeFormatting", rangeFormatting), ("textDocument/references", references),
    ("textDocument/rename", rename),
    ("textDocument/selectionRange",
      documentQuestion "SelectionRangeParams" [required "positions" (.list position)]),
    ("textDocument/semanticTokens/full", documentQuestion "SemanticTokensParams" []),
    ("textDocument/semanticTokens/full/delta",
      documentQuestion "SemanticTokensDeltaParams" [required "previousResultId" .text]),
    ("textDocument/semanticTokens/range",
      documentQuestion "SemanticTokensRangeParams" [required "range" range]),
    ("textDocument/signatureHelp", signatureHelp), ("textDocument/typeDefinition", goto),
    ("textDocument/willSaveWaitUntil",
      .record "WillSaveTextDocumentParams"
        [required "textDocument" document, required "reason" int]),
    ("typeHierarchy/subtypes", types "TypeHierarchySubtypesParams"),
    ("typeHierarchy/supertypes", types "TypeHierarchySupertypesParams"),
    ("workspace/diagnostic", workspaceDiagnostics),
    ("workspace/executeCommand",
      .merged "ExecuteCommandParams"
        [required "command" .text, ("arguments", .free, .list .any)] [progress]),
    ("workspace/symbol",
      .merged "WorkspaceSymbolParams" [required "query" .text] [partials, progress]),
    ("workspace/willCreateFiles", files "CreateFilesParams" "FileCreate" ["uri"]),
    ("workspace/willDeleteFiles", files "DeleteFilesParams" "FileDelete" ["uri"]),
    ("workspace/willRenameFiles", files "RenameFilesParams" "FileRename" ["oldUri", "newUri"]),
    ("workspaceSymbol/resolve", workspaceSymbolItem)]

/-- A notification that the answer to a request is no longer wanted. -/
def cancelled : Shape := .record "CancelParams" [required "id" numberOrText]

/-- The notifications that are only read, with their parameters. -/
def notifications : List (String × Shape) :=
  [("textDocument/didSave",
      .record "DidSaveTextDocumentParams"
        [required "textDocument" document, optional "text" .text]),
    ("textDocument/willSave",
      .record "WillSaveTextDocumentParams"
        [required "textDocument" document, required "reason" int]),
    ("workspace/didChangeConfiguration",
      .record "DidChangeConfigurationParams" [required "settings" .any]),
    ("workspace/didChangeWatchedFiles",
      .record "DidChangeWatchedFilesParams"
        [required "changes"
          (.list (.record "FileEvent" [required "uri" .uri, required "type" int]))]),
    ("workspace/didChangeWorkspaceFolders",
      .record "DidChangeWorkspaceFoldersParams"
        [required "event"
          (.record "WorkspaceFoldersChangeEvent"
            [required "added" (.list workspaceFolder),
              required "removed" (.list workspaceFolder)])]),
    ("workspace/didCreateFiles", files "CreateFilesParams" "FileCreate" ["uri"]),
    ("workspace/didDeleteFiles", files "DeleteFilesParams" "FileDelete" ["uri"]),
    ("workspace/didRenameFiles", files "RenameFilesParams" "FileRename" ["oldUri", "newUri"])]

end Shape

end MockLens
