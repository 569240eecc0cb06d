/-
**What an editor says of itself when a conversation begins.**

Main definitions:

* `Shape.workspaceCapabilities`, `Shape.documentCapabilities`, `Shape.windowCapabilities`,
  `Shape.generalCapabilities` — the four groups of capabilities;
* `Shape.clientCapabilities` — all of them;
* `Shape.beginning` — the parameters of the request that begins a conversation.
-/
import MockLens.Shape.Element

set_option autoImplicit false

namespace MockLens

namespace Shape

/-! ### Capabilities that look alike -/

/-- Capabilities that can be registered later. -/
def registrable : Shape :=
  .record "DynamicRegistrationClientCapabilities" (switches ["dynamicRegistration"])

/-- Capabilities that tell only whether the editor can be asked to start over. -/
def refreshable (title : String) : Shape := .record title (switches ["refreshSupport"])

/-- The properties that may be filled in later. -/
def properties (title : String) : Shape := .record title [required "properties" (.list .text)]

/-- The tags an editor knows, or whether it knows any. -/
def tagSupport : Field :=
  free "tagSupport" (.flagged (.record "TagSupport" [required "valueSet" (.list int)]))

/-- The kinds of symbols an editor knows. -/
def symbolKinds : Field :=
  optional "symbolKind" (.record "SymbolKindCapability" [optional "valueSet" (.list int)])

/-! ### Workspaces -/

/-- How edits of a workspace are applied. -/
def workspaceEdits : Shape :=
  .record "WorkspaceEditClientCapabilities"
    (switches ["documentChanges"] ++
      [optional "resourceOperations" (.list (.word ["create", "rename", "delete"])),
        optional "failureHandling"
          (.word ["abort", "transactional", "textOnlyTransactional", "undo"])] ++
      switches ["normalizesLineEndings"] ++
      [optional "changeAnnotationSupport"
        (.record "ChangeAnnotationWorkspaceEditClientCapabilities" (switches ["groupsOnLabel"]))])

/-- What an editor can do with a workspace. -/
def workspaceCapabilities : Shape :=
  .record "WorkspaceClientCapabilities"
    (switches ["applyEdit"] ++
      [optional "workspaceEdit" workspaceEdits, optional "didChangeConfiguration" registrable,
        optional "didChangeWatchedFiles"
          (.record "DidChangeWatchedFilesClientCapabilities"
            (switches ["dynamicRegistration", "relativePatternSupport"])),
        optional "symbol"
          (.record "WorkspaceSymbolClientCapabilities"
            (switches ["dynamicRegistration"] ++
              [symbolKinds, tagSupport,
                optional "resolveSupport"
                  (properties "WorkspaceSymbolResolveSupportCapability")])),
        optional "executeCommand" registrable] ++
      switches ["workspaceFolders", "configuration"] ++
      [optional "semanticTokens" (refreshable "SemanticTokensWorkspaceClientCapabilities"),
        optional "codeLens" (refreshable "CodeLensWorkspaceClientCapabilities"),
        optional "fileOperations"
          (.record "WorkspaceFileOperationsClientCapabilities"
            (switches ["dynamicRegistration", "didCreate", "willCreate", "didRename", "willRename",
              "didDelete", "willDelete"])),
        optional "inlineValue" (refreshable "InlineValueWorkspaceClientCapabilities"),
        optional "inlayHint" (refreshable "InlayHintWorkspaceClientCapabilities"),
        optional "diagnostic" (refreshable "DiagnosticWorkspaceClientCapabilities")])

/-! ### Documents -/

/-- What an editor can do with a completion. -/
def completionCapabilities : Shape :=
  .record "CompletionClientCapabilities"
    (switches ["dynamicRegistration"] ++
      [optional "completionItem"
          (.record "CompletionItemCapability"
            (switches ["snippetSupport", "commitCharactersSupport"] ++
              [optional "documentationFormat" (.list markupKind)] ++
              switches ["deprecatedSupport", "preselectSupport"] ++ [tagSupport] ++
              switches ["insertReplaceSupport"] ++
              [optional "resolveSupport" (properties "CompletionItemCapabilityResolveSupport"),
                optional "insertTextModeSupport"
                  (.record "InsertTextModeSupport" [required "valueSet" (.list int)])] ++
              switches ["labelDetailsSupport"])),
        optional "completionItemKind"
          (.record "CompletionItemKindCapability" [optional "valueSet" (.list int)])] ++
      switches ["contextSupport"] ++
      [optional "insertTextMode" int,
        optional "completionList"
          (.record "CompletionListCapability" [optional "itemDefaults" (.list .text)])])

/-- What an editor can do with the signature of a call. -/
def signatureCapabilities : Shape :=
  .record "SignatureHelpClientCapabilities"
    (switches ["dynamicRegistration"] ++
      [optional "signatureInformation"
        (.record "SignatureInformationSettings"
          ([optional "documentationFormat" (.list markupKind),
              optional "parameterInformation"
                (.record "ParameterInformationSettings" (switches ["labelOffsetSupport"]))] ++
            switches ["activeParameterSupport"]))] ++
      switches ["contextSupport"])

/-- What an editor can do with an action on code. -/
def actionCapabilities : Shape :=
  .record "CodeActionClientCapabilities"
    (switches ["dynamicRegistration"] ++
      [optional "codeActionLiteralSupport"
        (.record "CodeActionLiteralSupport"
          [required "codeActionKind"
            (.record "CodeActionKindLiteralSupport" [required "valueSet" (.list .text)])])] ++
      switches ["isPreferredSupport", "disabledSupport", "dataSupport"] ++
      [optional "resolveSupport" (properties "CodeActionCapabilityResolveSupport")] ++
      switches ["honorsChangeAnnotations"])

/-- What an editor can do with the kinds of the tokens of a document. -/
def tokenCapabilities : Shape :=
  .record "SemanticTokensClientCapabilities"
    (switches ["dynamicRegistration"] ++
      [required "requests"
          (.record "SemanticTokensClientCapabilitiesRequests"
            [optional "range" .bool,
              optional "full"
                (.either "SemanticTokensFullOptions"
                  [.bool, .record "Delta" (switches ["delta"])])]),
        required "tokenTypes" (.list .text), required "tokenModifiers" (.list .text),
        required "formats" (.list .text)] ++
      switches ["overlappingTokenSupport", "multilineTokenSupport", "serverCancelSupport",
        "augmentsSyntaxTokens"])

/-- What an editor can do with the ranges that can be folded. -/
def foldingCapabilities : Shape :=
  .record "FoldingRangeClientCapabilities"
    (switches ["dynamicRegistration"] ++ [optional "rangeLimit" natural] ++
      switches ["lineFoldingOnly"] ++
      [optional "foldingRangeKind"
          (.record "FoldingRangeKindCapability"
            [optional "valueSet" (.list (.word ["comment", "imports", "region"]))]),
        optional "foldingRange"
          (.record "FoldingRangeCapability" (switches ["collapsedText"]))])

/-- Where a name leads to. -/
def gotoCapabilities : Shape :=
  .record "GotoCapability" (switches ["dynamicRegistration", "linkSupport"])

/-- What an editor can do with a document. -/
def documentCapabilities : Shape :=
  .record "TextDocumentClientCapabilities"
    [optional "synchronization"
        (.record "TextDocumentSyncClientCapabilities"
          (switches ["dynamicRegistration", "willSave", "willSaveWaitUntil", "didSave"])),
      optional "completion" completionCapabilities,
      optional "hover"
        (.record "HoverClientCapabilities"
          (switches ["dynamicRegistration"] ++
            [optional "contentFormat" (.list markupKind)])),
      optional "signatureHelp" signatureCapabilities, optional "references" registrable,
      optional "documentHighlight" registrable,
      optional "documentSymbol"
        (.record "DocumentSymbolClientCapabilities"
          (switches ["dynamicRegistration"] ++ [symbolKinds] ++
            switches ["hierarchicalDocumentSymbolSupport"] ++ [tagSupport])),
      optional "formatting" registrable, optional "rangeFormatting" registrable,
      optional "onTypeFormatting" registrable, optional "declaration" gotoCapabilities,
      optional "definition" gotoCapabilities, optional "typeDefinition" gotoCapabilities,
      optional "implementation" gotoCapabilities, optional "codeAction" actionCapabilities,
      optional "codeLens" registrable,
      optional "documentLink"
        (.record "DocumentLinkClientCapabilities"
          (switches ["dynamicRegistration", "tooltipSupport"])),
      optional "colorProvider" registrable,
      optional "rename"
        (.record "RenameClientCapabilities"
          (switches ["dynamicRegistration", "prepareSupport"] ++
            [optional "prepareSupportDefaultBehavior" int] ++
            switches ["honorsChangeAnnotations"])),
      optional "publishDiagnostics"
        (.record "PublishDiagnosticsClientCapabilities"
          (switches ["relatedInformation"] ++ [tagSupport] ++
            switches ["versionSupport", "codeDescriptionSupport", "dataSupport"])),
      optional "foldingRange" foldingCapabilities,
      optional "selectionRange"
        (.record "SelectionRangeClientCapabilities" (switches ["dynamicRegistration"])),
      optional "linkedEditingRange" registrable, optional "callHierarchy" registrable,
      optional "semanticTokens" tokenCapabilities, optional "moniker" registrable,
      optional "typeHierarchy" registrable, optional "inlineValue" registrable,
      optional "inlayHint"
        (.record "InlayHintClientCapabilities"
          (switches ["dynamicRegistration"] ++
            [optional "resolveSupport" (properties "InlayHintResolveClientCapabilities")])),
      optional "diagnostic"
        (.record "DiagnosticClientCapabilities"
          (switches ["dynamicRegistration", "relatedDocumentSupport"]))]

/-- What an editor can do with a notebook. -/
def notebookCapabilities : Shape :=
  .record "NotebookDocumentClientCapabilities"
    [required "synchronization"
      (.record "NotebookDocumentSyncClientCapabilities"
        (switches ["dynamicRegistration", "executionSummaryReport"]))]

/-! ### The rest -/

/-- What an editor can show in a window. -/
def windowCapabilities : Shape :=
  .record "WindowClientCapabilities"
    (switches ["workDoneProgress"] ++
      [optional "showMessage"
          (.record "ShowMessageRequestClientCapabilities"
            [optional "messageActionItem"
              (.record "MessageActionItemCapabilities"
                (switches ["additionalPropertiesSupport"]))]),
        optional "showDocument"
          (.record "ShowDocumentClientCapabilities" [required "support" .bool])])

/-- What an editor can do in general. -/
def generalCapabilities : Shape :=
  .record "GeneralClientCapabilities"
    [optional "regularExpressions"
        (.record "RegularExpressionsClientCapabilities"
          [required "engine" .text, optional "version" .text]),
      optional "markdown"
        (.record "MarkdownClientCapabilities"
          [required "parser" .text, optional "version" .text,
            optional "allowedTags" (.list .text)]),
      optional "staleRequestSupport"
        (.record "StaleRequestSupportClientCapabilities"
          [required "cancel" .bool, required "retryOnContentModified" (.list .text)]),
      optional "positionEncodings" (.list .text)]

/-- What an editor can do. -/
def clientCapabilities : Shape :=
  .record "ClientCapabilities"
    [optional "workspace" workspaceCapabilities, optional "textDocument" documentCapabilities,
      optional "notebookDocument" notebookCapabilities, optional "window" windowCapabilities,
      optional "general" generalCapabilities, optional "experimental" .any]

/-- The parameters of the request that begins a conversation. -/
def beginning : Shape :=
  .record "InitializeParams"
    [optional "processId" natural, optional "rootPath" .text, free "rootUri" .uri,
      optional "initializationOptions" .any, required "capabilities" clientCapabilities,
      free "trace" (.word ["off", "messages", "verbose"]),
      optional "workspaceFolders" (.list workspaceFolder),
      optional "clientInfo"
        (.record "ClientInfo" [required "name" .text, optional "version" .text]),
      optional "locale" .text]

end Shape

end MockLens
