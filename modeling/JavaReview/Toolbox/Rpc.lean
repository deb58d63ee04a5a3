import JavaReview.Json.Fit
import JavaReview.Text.Base64
import JavaReview.Toolbox

/-!
Calls of tools as messages, one on each line. A message with an id is answered on a line of its own,
a message without one is not answered.
-/

namespace JavaReview.Toolbox

/-- The version of the format of messages. -/
def rpcVersion : String := "2.0"

/-- The versions of the tool protocol, newest first. -/
def protocolVersions : List String := ["2025-11-25", "2025-06-18", "2025-03-26", "2024-11-05"]

/-- The name under which the tools are offered. -/
def programName : String := "jreview"

/-- The version of the tool protocol for those who name none. -/
def unnamedVersion : String := "2025-03-26"

/-- Why a message is refused. -/
inductive RpcError where
  | unreadable
  | notMessage
  | notNotice
  | wrongVersion
  | unknownMethod (method : String)
  | unsupported (what : String)
  | badRequest (method : String) (cause : Json.Misfit)
  | badCursor (place : Nat)
  | unknownTool (name : String)
deriving DecidableEq, Repr

namespace RpcError

/-- The number of a refusal. -/
def code : RpcError → Int
  | unreadable | notMessage | notNotice => -32700
  | wrongVersion | badRequest .. => -32600
  | unknownMethod _ | unsupported _ => -32601
  | unknownTool _ | badCursor _ => -32602

/-- The text of a refusal. -/
def message : RpcError → String
  | unreadable => "Parse error"
  | notMessage => "Failed to parse message"
  | notNotice => "Failed to parse notification"
  | wrongVersion => "Invalid JSON-RPC version"
  | unknownMethod method => "Method " ++ method ++ " not found"
  | unsupported what => what ++ " not supported"
  | badRequest method cause => "unparsable " ++ method ++ " request: " ++ cause.message
  | badCursor place => "illegal base64 data at input byte " ++ decimal place
  | unknownTool name => "tool '" ++ name ++ "' not found: tool not found"

end RpcError

/-! ## Fields -/

/-- The fields of an object. -/
def fieldsOf : Json → List (String × Json)
  | .obj fields => fields
  | _ => []

/-- The values of the fields of a name, which is compared up to case. -/
def valuesOf (fields : List (String × Json)) (name : String) : List Json :=
  (fields.filter fun f => Json.namesField f.1 name).map (·.2)

/-- The value of a field; the last one counts. -/
def valueOf (fields : List (String × Json)) (name : String) : Json :=
  (valuesOf fields name).getLastD .null

/-- The text of a field, or the empty text; the last one counts. -/
def textOf (fields : List (String × Json)) (name : String) : String :=
  ((valuesOf fields name).filterMap fun
    | .str s => some s
    | _ => none).getLastD ""

/-- The fields of the objects in a field, all together. -/
def fieldsIn (fields : List (String × Json)) (name : String) : List (String × Json) :=
  (valuesOf fields name).flatMap fieldsOf

/-- Whether a value is nothing. -/
def isNull : Json → Bool
  | .null => true
  | _ => false

/-! ## What messages are read as -/

/-- A text of no special kind. -/
def plainText : Json.Fit := .text "string"

/-- What every message is read as. -/
def messageFit : Json.Fit :=
  .record "" [("jsonrpc", plainText), ("method", plainText), ("id", .any), ("result", .any)]

/-- What a message without an id is read as. -/
def noticeFit : Json.Fit :=
  .record "" [("jsonrpc", plainText), ("method", plainText), ("params", .object)]

/-- A request with parameters of a type. -/
def requestFit (type : String) (fields : List (String × Json.Fit)) : Json.Fit :=
  .record "" [("params", .record type fields)]

/-- What the requests of a method are read as, with the name of their type. -/
def fitOf? (method : String) : Option (String × Json.Fit) :=
  match method with
  | "initialize" =>
    some ("InitializeRequest", requestFit "mcp.InitializeParams"
      [("protocolVersion", plainText),
        ("capabilities", .record "mcp.ClientCapabilities" [("experimental", .object)]),
        ("clientInfo", .record "mcp.Implementation"
          [("name", plainText), ("version", plainText), ("title", plainText)])])
  | "ping" => some ("PingRequest", requestFit "mcp.RequestParams" [("_meta", .aside .object)])
  | "tools/list" =>
    some ("ListToolsRequest", requestFit "mcp.PaginatedParams" [("cursor", .text "mcp.Cursor")])
  | "tools/call" =>
    some ("CallToolRequest", requestFit "mcp.CallToolParams"
      [("name", plainText), ("arguments", .any), ("_meta", .aside .object)])
  | _ => none

/-- The methods of what is not offered. -/
def unsupportedMethods : List (String × String) :=
  [("resources/list", "resources"), ("resources/templates/list", "resources"),
    ("resources/read", "resources"), ("prompts/list", "prompts"), ("prompts/get", "prompts"),
    ("logging/setLevel", "logging"), ("completion/complete", "completions"), ("tasks/list", "tasks"),
    ("tasks/get", "tasks"), ("tasks/result", "tasks"), ("tasks/cancel", "tasks")]

/-! ## Answers -/

/-- An answer to a tool call. -/
def answerJson (a : ToolAnswer) : Json :=
  .obj (("content", .arr [.obj [("type", .str "text"), ("text", .str a.text)]]) ::
    Json.fieldIf a.isError "isError" (.bool true))

/-- An argument of a tool as a field of a schema. -/
def argumentJson (a : ToolArgument) : String × Json :=
  (a.name, .obj [("description", .str a.description), ("type", .str a.kind)])

/-- The schema of the arguments of a tool. -/
def schemaJson (t : Tool) : Json :=
  let required := (t.arguments.filter (·.required)).map fun a => Json.str a.name
  .obj [("properties", .obj (t.arguments.map argumentJson)), ("required", .arr required),
    ("type", .str "object")]

/-- What is told of a tool. -/
def toolJson (t : Tool) : Json :=
  .obj [("annotations", .obj [("readOnlyHint", .bool false), ("destructiveHint", .bool true),
      ("idempotentHint", .bool false), ("openWorldHint", .bool true)]),
    ("description", .str t.description), ("inputSchema", schemaJson t), ("name", .str t.name)]

/-- The version of the protocol to go on with: the one that is asked for, if it is known. -/
def agreedVersion (asked : String) : String :=
  if asked = "" then unnamedVersion
  else if protocolVersions.contains asked then asked
  else protocolVersions.headD ""

/-- What is told at the start. -/
def welcome (version asked : String) : Json :=
  .obj [("protocolVersion", .str (agreedVersion asked)),
    ("capabilities", .obj [("tools", .obj [("listChanged", .bool true)])]),
    ("serverInfo", .obj [("name", .str programName), ("version", .str version)])]

/-- The tools whose names come after what a cursor writes; all of them for no cursor. -/
def toolsAfter (cursor : String) : Except RpcError (List Tool) :=
  if cursor = "" then .ok Tool.all
  else
    match Text.decodeBase64 (Text.bytes cursor.toList) with
    | .error place => .error (.badCursor place)
    | .ok bytes => .ok (Tool.all.dropWhile fun t => !(bytes < Text.bytes t.name.toList))

/-- Answers a method that is offered. -/
def offered (t : Toolbox) (now : Instant) (version name : String) (params : List (String × Json)) :
    Except RpcError Json × Toolbox :=
  match name with
  | "initialize" => (.ok (welcome version (textOf params "protocolVersion")), t)
  | "ping" => (.ok (.obj []), t)
  | "tools/list" =>
    ((toolsAfter (textOf params "cursor")).map fun ts => .obj [("tools", .arr (ts.map toolJson))], t)
  | "tools/call" =>
    match Tool.ofName? (textOf params "name") with
    | none => (.error (.unknownTool (textOf params "name")), t)
    | some tool =>
      let (a, t') := t.call now tool (fieldsOf (valueOf params "arguments"))
      (.ok (answerJson a), t')
  | _ => (.error (.unknownMethod name), t)

/-- Answers a request with a method. -/
def request (t : Toolbox) (now : Instant) (version : String) (fields : List (String × Json)) :
    Except RpcError Json × Toolbox :=
  let name := textOf fields "method"
  match unsupportedMethods.lookup name, fitOf? name with
  | some what, _ => (.error (.unsupported what), t)
  | none, none => (.error (.unknownMethod name), t)
  | none, some (type, fit) =>
    match Json.misfit? type [] fit (.obj fields) with
    | some m => (.error (.badRequest name m), t)
    | none => t.offered now version name (fieldsIn fields "params")

/-- The line of an answer. -/
def answerLine (id : Json) : Except RpcError Json → String
  | .ok result =>
    (Json.obj [("jsonrpc", .str rpcVersion), ("id", id), ("result", result)]).compact ++ "\n"
  | .error e =>
    (Json.obj [("jsonrpc", .str rpcVersion), ("id", id),
      ("error", .obj [("code", .int e.code), ("message", .str e.message)])]).compact ++ "\n"

/-- Answers a message; the answer is empty if none is due. A `null` is a message without fields. -/
def message (t : Toolbox) (now : Instant) (version : String) (v : Json) : String × Toolbox :=
  let fields := fieldsOf v
  match Json.misfit? "" [] messageFit v, (valueOf fields "id").anew? with
  | none, some id =>
    if textOf fields "jsonrpc" ≠ rpcVersion then (answerLine id (.error .wrongVersion), t)
    else if isNull id then
      if (Json.misfit? "" [] noticeFit v).isSome then (answerLine .null (.error .notNotice), t)
      else ("", t)
    else if !isNull (valueOf fields "result") then ("", t)
    else
      let (result, t') := t.request now version fields
      (answerLine id result, t')
  | _, _ => (answerLine .null (.error .notMessage), t)

/-- Answers a line. -/
def line (t : Toolbox) (now : Instant) (version : String) (s : List Char) : String × Toolbox :=
  match Json.readWhole? s with
  | none => (answerLine .null (.error .unreadable), t)
  | some v => t.message now version v

/-- Answers lines in order. -/
def lines (t : Toolbox) (now : Instant) (version : String) : List (List Char) → String × Toolbox
  | [] => ("", t)
  | l :: r =>
    let (a, t') := t.line now version l
    let (rest, t'') := lines t' now version r
    (a ++ rest, t'')

/-- Answers all lines of a text that end in a line feed. -/
def serve (t : Toolbox) (now : Instant) (version input : String) : String × Toolbox :=
  t.lines now version (Text.splitOn '\n' input.toList).dropLast

end JavaReview.Toolbox
