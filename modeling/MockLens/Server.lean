/-
**The server: messages in, messages out.**

An editor sends requests, which are answered under their number, and notifications, which are not.
Most of them are only understood between the beginning and the end of a conversation.  The scan of
the workspace runs beside the conversation: messages are handled while it is under way, and it is
settled when its files are read.

Main definitions:

* `Server`, `Server.Phase` — the state of a conversation;
* `Request`, `Request.ofJson?` — a message of the editor;
* `Server.handle` — the messages that answer one;
* `Server.settle`, `Server.settleAll` — the end of a scan under way;
* `Server.receive` — the same for the text of a message.
-/
import MockLens.Json.Parser
import MockLens.Json.Printer
import MockLens.Protocol
import MockLens.Server.Params

set_option autoImplicit false

namespace MockLens

/-! ### Messages -/

/-- A message of the editor; one without an `id` is a notification. -/
structure Request where
  method : String
  params : Option Json := none
  id : Option Json := none

/-- A text, an integer of 64 bits or null, by which a request is answered. -/
def Request.isId : Json → Bool
  | .string _ => true
  | .integer n => n < Nat.pow 2 63
  | .null => true
  | _ => false

/-- The names of the fields of a message, in the order in which an array gives them. -/
def Request.fieldNames : List String := ["jsonrpc", "method", "params", "id"]

/-- The number of fields with a given name. -/
def Request.count (fields : List (String × Json)) (name : String) : Nat :=
  fields.countP fun f => f.1 == name

/-- The fields of a message, which is an object, none of them given twice, or an array. -/
def Request.fields? : Json → Option (List (String × Json))
  | .object fields =>
    if fieldNames.all fun name => count fields name ≤ 1 then some fields else none
  | .array items =>
    if items.length ≤ fieldNames.length then some (fieldNames.zip items) else none
  | _ => none

/-- The fields are of the version of the protocol that is spoken here. -/
def Request.areSpoken (fields : List (String × Json)) : Bool :=
  (fields.lookup "jsonrpc").bind Json.string? == some "2.0"

/-- Reads a message; nothing comes of a value that is none.  The method may be missing, and then
has no name. -/
def Request.ofJson? (v : Json) : Option Request := do
  let fields ← fields? v
  let id := fields.lookup "id"
  if !areSpoken fields || !id.all isId then none
  match fields.lookup "method" with
  | some (.string method) => some ⟨method, fields.lookup "params", id⟩
  | some _ => none
  | none => some ⟨"", fields.lookup "params", id⟩

/-- The shape of the error in an answer. -/
def Request.errorShape : Shape :=
  .record "Error"
    [Shape.required "code" (.integer "i64" (-(Nat.pow 2 63 : Int)) (Nat.pow 2 63 - 1)),
      Shape.required "message" .text, Shape.optional "data" .any]

/-- A value is an answer of the editor, which needs none itself. -/
def Request.isAnswer (v : Json) : Bool :=
  match v with
  | .object fields =>
    let once (name : String) : Bool := count fields name == 1
    let isError (e : Json) : Bool := (errorShape.read true e).toBool
    once "jsonrpc" && areSpoken fields && once "id" && (fields.lookup "id").any isId &&
      (once "result" || (once "error" && (fields.lookup "error").any isError))
  | _ => false

/-- Why a request has no result. -/
inductive RequestError where
  | notParsed
  | invalidRequest
  /-- A method nobody knows. -/
  | unknownMethod (name : String)
  /-- A method of the protocol that this server leaves out. -/
  | leftOut
  | invalidParams (reason : String)
  | notBegun
  deriving DecidableEq, Repr

namespace RequestError

/-- The number of an error. -/
def code : RequestError → Int
  | notParsed => -32700
  | invalidRequest => -32600
  | unknownMethod _ => -32601
  | leftOut => -32601
  | invalidParams _ => -32602
  | notBegun => -32002

/-- The text of an error. -/
def message : RequestError → String
  | notParsed => "Parse error"
  | invalidRequest => "Invalid request"
  | unknownMethod _ => "Method not found"
  | leftOut => "Method not found"
  | invalidParams reason => reason
  | notBegun => "Server not initialized"

/-- An error as a JSON object. -/
def toJson (e : RequestError) : Json :=
  let data :=
    match e with
    | unknownMethod name => [("data", Json.string name)]
    | _ => []
  .object ([("code", .integer e.code), ("message", .string e.message)] ++ data)

end RequestError

/-- The answer to a request. -/
def answer (id : Json) : Except RequestError Json → Json
  | .ok result => .object [("jsonrpc", .string "2.0"), ("result", result), ("id", id)]
  | .error e => .object [("jsonrpc", .string "2.0"), ("error", e.toJson), ("id", id)]

/-- A message that is shown in the log of the editor. -/
def logMessage (text : String) : Json :=
  .object
    [("jsonrpc", .string "2.0"), ("method", .string "window/logMessage"),
      ("params", .object [("type", .ofNat 3), ("message", .string text)])]

/-! ### The conversation -/

/-- How far a conversation has come. -/
inductive Server.Phase where
  | fresh
  | running
  /-- The end was asked for. -/
  | shutDown
  | exited
  deriving DecidableEq, Repr

/-- A scan under way, with the messages that follow the news of its end. -/
structure Server.Pending where
  scan : Session.Scan
  behind : List Json

/-- The state of a conversation. -/
structure Server where
  phase : Server.Phase := .fresh
  session : Session := {}
  /-- The scans under way, the oldest first. -/
  scans : List Server.Pending := []

namespace Server

/-- What is answered to a request outside a conversation. -/
def outside (s : Server) : RequestError :=
  match s.phase with
  | .fresh => .notBegun
  | _ => .invalidRequest

/-- The answer to a request; a notification has none. -/
def reply (r : Request) (result : Except RequestError Json) : List Json :=
  (r.id.map fun id => answer id result).toList

/-- The parameters of a message, which must be there, in their normal form. -/
def paramsOf (shape : Shape) (r : Request) : Except RequestError Json :=
  match r.params with
  | some p => (Params.read shape p).mapError .invalidParams
  | none => .error (.invalidParams "Missing params field")

/-- Answers a question about a position. -/
def question (shape : Shape) (ask : String → Position → Json) (r : Request) : List Json :=
  reply r ((paramsOf shape r).map fun v =>
    let (uri, position) := Params.position v
    ask uri position)

/-- Handles a notification; one with a number is answered with an error. -/
def notification (s : Server) (shape : Shape) (r : Request) (act : Json → Server × List Json) :
    Server × List Json :=
  match paramsOf shape r with
  | .ok v =>
    let (s, messages) := act v
    (s, messages ++ reply r (.error .invalidRequest))
  | .error e => (s, reply r (.error e))

/-- Handles the request that begins a conversation, unless it wants no answer. -/
def begin (env : Environment) (s : Server) (r : Request) : Server × List Json :=
  match s.phase with
  | .fresh =>
    match paramsOf Shape.beginning r with
    | .ok v =>
      ({ s with
          phase := if r.id.isSome then .running else .fresh
          session := s.session.attach env (Params.attached v) },
        reply r (.ok Protocol.capabilities))
    | .error e => (s, reply r (.error e))
  | _ => (s, reply r (.error .invalidRequest))

/-- Handles the request that ends a conversation, which has no parameters. -/
def finish (s : Server) (r : Request) : Server × List Json :=
  let result :=
    match r.params with
    | none => .ok .null
    | some p => .error (.invalidParams ("Unexpected params: " ++ p.sorted.compact))
  ({ s with phase := .shutDown }, reply r result)

/-- Handles a message whose method is only read. -/
def readOnly (s : Server) (r : Request) : Server × List Json :=
  match Shape.requests.lookup r.method, Shape.notifications.lookup r.method with
  | some shape, _ => (s, reply r ((paramsOf shape r).bind fun _ => .error .leftOut))
  | none, some shape => notification s shape r fun _ => (s, [])
  | none, none => (s, [])

/-- Handles the notification that the editor is ready: the scan begins, if there is a root. -/
def ready (s : Server) (r : Request) : Server × List Json :=
  match paramsOf (.record "InitializedParams" []) r with
  | .ok _ =>
    let behind := reply r (.error .invalidRequest)
    match s.session.beginScan with
    | some scan => ({ s with scans := s.scans ++ [⟨scan, behind⟩] }, [])
    | none => (s, logMessage Session.greeting :: behind)
  | .error e => (s, reply r (.error e))

/-- Finishes the oldest scan under way. -/
def settle (env : Environment) (s : Server) : Server × List Json :=
  match s.scans with
  | [] => (s, [])
  | pending :: more =>
    let (session, message) := s.session.settleScan env.disk pending.scan
    ({ s with session := session, scans := more }, logMessage message :: pending.behind)

/-- Finishes every scan under way. -/
def settleAll (env : Environment) (s : Server) : Server × List Json :=
  s.scans.foldl
    (fun acc _ =>
      let (s, messages) := acc.1.settle env
      (s, acc.2 ++ messages))
    (s, [])

/-- Handles a message within a conversation. -/
def converse (s : Server) (r : Request) : Server × List Json :=
  let session := s.session
  match r.method with
  | "initialized" => ready s r
  | "textDocument/didOpen" =>
    notification s Shape.opened r fun v =>
      let (uri, text) := Params.opened v
      ({ s with session := session.openDocument uri text }, [logMessage ("Opened file: " ++ uri)])
  | "textDocument/didChange" =>
    notification s Shape.changed r fun v =>
      let (uri, texts) := Params.changed v
      ({ s with session := session.changeDocument uri texts }, [])
  | "textDocument/didClose" =>
    notification s Shape.closed r fun v =>
      let uri := Params.closed v
      ({ s with session := session.closeDocument uri }, [logMessage ("Closed file: " ++ uri)])
  | "textDocument/completion" =>
    (s, question Shape.completion (fun uri p =>
      Protocol.completionResult (session.completion uri p)) r)
  | "textDocument/definition" =>
    (s, question Shape.goto (fun uri p =>
      Protocol.definitionResult (session.definition uri p)) r)
  | "textDocument/hover" =>
    (s, question Shape.hover (fun uri p => Protocol.hoverResult (session.hover uri p)) r)
  | "shutdown" => finish s r
  | _ => readOnly s r

/-- The methods that are only understood within a conversation. -/
def conversation : List String :=
  ["initialized", "shutdown", "textDocument/completion", "textDocument/definition",
    "textDocument/didChange", "textDocument/didClose", "textDocument/didOpen",
    "textDocument/hover"] ++ Shape.requests.map Prod.fst ++ Shape.notifications.map Prod.fst

/-- Handles a message: the state after it and the messages that answer it.  Every request is
answered at once, so it is too late to cancel one. -/
def handle (env : Environment) (s : Server) (r : Request) : Server × List Json :=
  if s.phase == .exited then (s, [])
  else if r.method == "initialize" then begin env s r
  else if r.method == "exit" then ({ s with phase := .exited }, [])
  else if r.method == "$/cancelRequest" then
    notification s Shape.cancelled r fun _ => (s, [])
  else if conversation.contains r.method then
    if s.phase == .running then converse s r else (s, reply r (.error s.outside))
  else (s, reply r (.error (.unknownMethod r.method)))

/-- Handles the text of a message; an empty one is none.  What is no message is told from what is no
JSON at its end only. -/
def receive (env : Environment) (s : Server) (body : String) : Server × List Json :=
  if body == "" then (s, [])
  else
    match Json.parseFront? body with
    | none => (s, [answer .null (.error .notParsed)])
    | some (v, isWhole) =>
      match Request.isAnswer v, Request.ofJson? v with
      | false, none => (s, [answer .null (.error .invalidRequest)])
      | isAnswer, r =>
        if !isWhole then (s, [answer .null (.error .notParsed)])
        else
          match isAnswer, r with
          | false, some r => handle env s r
          | _, _ => (s, [])

/-- The root of the project whose files a message reads. -/
def rootRead (s : Server) (body : String) : Option Path :=
  match (Json.parse? body).bind Request.ofJson? with
  | some r =>
    if r.method == "initialize" then
      match paramsOf Shape.beginning r with
      | .ok v => (Params.attached v).bind Uri.filePath?
      | .error _ => none
    else if r.method == "initialized" then s.session.root
    else none
  | none => none

end Server

end MockLens
