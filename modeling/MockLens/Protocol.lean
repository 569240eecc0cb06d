/-
**The language server protocol: values as editors exchange them.**

Main definitions:

* `Position.toJson`, `Range.toJson`, `Location.toJson`, `CompletionItem.toJson`, `Hover.toJson` —
  the values of answers;
* `Protocol.completionResult`, `Protocol.definitionResult`, `Protocol.hoverResult` — the answers to
  the three questions;
* `Protocol.capabilities` — what the server tells of itself.
-/
import MockLens.Json
import MockLens.Session

set_option autoImplicit false

namespace MockLens

/-- A position as a JSON object. -/
def Position.toJson (p : Position) : Json :=
  .object [("line", .ofNat p.line), ("character", .ofNat p.character)]

/-- A range as a JSON object. -/
def Range.toJson (r : Range) : Json :=
  .object [("start", r.start.toJson), ("end", r.stop.toJson)]

/-- A location as a JSON object. -/
def Location.toJson (l : Location) : Json :=
  .object [("uri", .string l.uri), ("range", l.range.toJson)]

/-- An edit as a JSON object. -/
def TextEdit.toJson (e : TextEdit) : Json :=
  .object [("range", e.range.toJson), ("newText", .string e.newText)]

/-- The number the protocol gives a kind of offer. -/
def CompletionItem.Kind.code : CompletionItem.Kind → Nat
  | method => 2
  | cls => 7
  | interface => 8

/-- An offer as a JSON object, in which what it does not bring is left out. -/
def CompletionItem.toJson (item : CompletionItem) : Json :=
  let optional {α : Type} (name : String) (f : α → Json) (v : Option α) : List (String × Json) :=
    (v.map fun v => (name, f v)).toList
  .object
    ([("label", .string item.label), ("kind", .ofNat item.kind.code),
        ("detail", .string item.detail)] ++
      optional "sortText" .string item.sortText ++ [("filterText", .string item.filterText)] ++
      optional "insertText" .string item.insertText ++
      optional "textEdit" TextEdit.toJson item.textEdit)

/-- A hover text as a JSON object. -/
def Hover.toJson (h : Hover) : Json :=
  .object
    [("contents", .object [("kind", .string "markdown"), ("value", .string h.markdown)]),
      ("range", h.range.toJson)]

namespace Protocol

/-- The answer to a question for completions. -/
def completionResult : Option (List CompletionItem) → Json
  | some items => .array (items.map CompletionItem.toJson)
  | none => .null

/-- The answer to a question for definitions: a single location stands alone. -/
def definitionResult : List Location → Json
  | [] => .null
  | [l] => l.toJson
  | ls => .array (ls.map Location.toJson)

/-- The answer to a question for a hover text. -/
def hoverResult : Option Hover → Json
  | some h => h.toJson
  | none => .null

/-- The name of the server. -/
def serverName : String := "phake-lsp"

/-- The version of the server. -/
def serverVersion : String := "0.1.0"

/-- What the server tells of itself: documents are sent whole, and it answers questions for
completions, definitions and hover texts. -/
def capabilities : Json :=
  .object
    [("capabilities",
        .object
          [("textDocumentSync", .ofNat 1), ("hoverProvider", .bool true),
            ("completionProvider",
              .object
                [("resolveProvider", .bool false),
                  ("triggerCharacters", .ofStrings [">", "'", "\""])]),
            ("definitionProvider", .bool true)]),
      ("serverInfo",
        .object [("name", .string serverName), ("version", .string serverVersion)])]

end Protocol

end MockLens
