import Automation.Chars.Encoding
import Automation.Generation
import Automation.Progress.Hub
import Automation.Server.Address
import Automation.Server.Log
import Automation.Server.Request

/-!
# The interface of the server

The server lists the types of nodes, generates workflows and exports them, shows its log, and has
pages on all that. Everything is at a path of its own, and asked for by one method or two. A slash
at the end of a path does not matter.

Whoever asks for a workflow or an export sends a document. A document that does not say what it
should is refused, and the refusal repeats the parts at fault. A number that is not finite and a
text that is no string cannot be sent; an answer that would have to fails.
-/

namespace Automation

/-- What is asked of the server. -/
structure ApiRequest where
  /-- The method, in upper case. -/
  method : Text
  /-- The address. -/
  address : Address
  /-- What is sent along. -/
  body : Option Text := none
  deriving DecidableEq, Repr

/-- What the server answers. -/
inductive ApiAnswer where
  /-- A document with a status. -/
  | document (status : Nat) (content : Json)
  /-- A file with its name. -/
  | file (name content : Text) (document : Json)
  /-- A status with nothing that counts beside it. -/
  | status (status : Nat)
  deriving DecidableEq, Repr

/-- What the server has to offer. -/
inductive Endpoint where
  /-- A greeting. -/
  | greeting
  /-- The types of nodes. -/
  | nodes
  /-- A type of node. -/
  | node (typeId : Text)
  /-- The generation of a workflow. -/
  | generation
  /-- The export of a workflow. -/
  | exporting
  /-- The log. -/
  | logs
  /-- A page on what the server has to offer. -/
  | manual
  deriving DecidableEq, Repr

namespace Endpoint

/-- What begins the path of a type of node. -/
def nodePath : Text := "/api/nodes/"

/-- The type of node at a path. -/
def nodeAt? (path : Text) : Option Endpoint :=
  if nodePath.isPrefixOf path then
    let typeId := path.drop nodePath.length
    if typeId.isEmpty || typeId.contains '/' then none else some (node typeId)
  else none

/-- A path without a line break at its end. -/
def unbroken (path : Text) : Text :=
  if path.getLast? = some '\n' then path.dropLast else path

/-- The paths at which there is always the same. -/
def fixed : List (Text × Endpoint) := [
  ("/", greeting), ("/api/nodes", nodes), ("/api/generate", generation),
  ("/api/export", exporting), ("/api/logs", logs), ("/openapi.json", manual), ("/docs", manual),
  ("/docs/oauth2-redirect", manual), ("/redoc", manual)]

/-- What is at a path. A line break at its end does not matter, except behind a type of node. -/
def at? (path : Text) : Option Endpoint :=
  match fixed.lookup (unbroken path) with
  | some e => some e
  | none => nodeAt? path

/-- A path without the slashes at its end. -/
def unslashed (path : Text) : Text :=
  (path.reverse.dropWhile fun (c : CodePoint) => c == '/').reverse

/-- What is found at a path. If there is something only without the slashes at the end, the path is
followed anew without them. -/
def find? (path : Text) : Option Endpoint :=
  match at? path with
  | some e => some e
  | none =>
    match at? (unslashed path) with
    | some _ => at? (Address.withoutDots (unslashed path))
    | none => none

/-- The methods by which something is asked for. -/
def methods : Endpoint → List Text
  | generation => ["POST"]
  | exporting => ["POST"]
  | manual => ["GET", "HEAD"]
  | _ => ["GET"]

end Endpoint

namespace Json

mutual

/-- Whether a value can be sent: all numbers are finite and all texts are strings. Members whose
keys begin with `_sa` are not sent. -/
def isSendable : Json → Bool
  | number (.float .nan) => false
  | number (.float (.infinite _)) => false
  | text t => t.isString
  | array items => areSendable items
  | object members => membersAreSendable members
  | _ => true

/-- Whether all values can be sent. -/
def areSendable : List Json → Bool
  | [] => true
  | item :: rest => isSendable item && areSendable rest

/-- Whether all members can be sent. -/
def membersAreSendable : List (Text × Json) → Bool
  | [] => true
  | (key, value) :: rest =>
    (("_sa" : Text).isPrefixOf key || (key.isString && isSendable value)) && membersAreSendable rest

end

end Json

namespace Api

variable [Limits]

/-- A document as an answer, if it can be written. -/
def written (status : Nat) (content : Json) : ApiAnswer :=
  if (content.write .plain).isString then .document status content else .status 500

/-- An answer that only says what is the matter. -/
def detail (status : Nat) (message : Text) : ApiAnswer :=
  written status (.ofFields [("detail", message)])

/-! ### Documents that are sent -/

/-- Whether a defect can be told: its part of the document and the keys on the way there. -/
def canTell (d : Defect) : Bool :=
  d.keys.all Text.isString && d.found.isSendable

/-- The answer to a document with some defects. -/
def refusal (defects : List Defect) : ApiAnswer :=
  .status (if defects.all canTell then 422 else 500)

/-- The record in a document that was sent, or the answer to it. -/
def received {α : Type} (check : Json → Checked α) (body : Option Text) : Except ApiAnswer α :=
  match body.getD [] with
  | [] => .error (.status 422)
  | body =>
    match Text.document? body with
    | none => .error (.status 400)
    | some text =>
      match Json.read text with
      | .error (.malformed _ _) => .error (.status 422)
      | .error (.beyond _) => .error (.status 400)
      | .ok document =>
        match check document with
        | .valid a => .ok a
        | .invalid defects => .error (refusal defects)

/-! ### Answers -/

/-- What is told to clients when a generation fails. -/
def failureEvent (message : Text) : ProgressEvent := ⟨"error", message, 0⟩

/-- The workflow for a request, with every event told to the clients. If the service fails, they are
told that at the end. -/
def generate (request : GenerateRequest) (r : Run) : Except Failure GenerationResult × Run :=
  match (Generator.new .builtin).generate (some .quiet) request.task r with
  | (.error (.transport message), r) =>
    (.error (.transport message), r.tell (some .quiet) (failureEvent message))
  | result => result

/-- The answer to a generation. -/
def generated : Except Failure GenerationResult → ApiAnswer
  | .ok result => written 200 result.toJson
  | .error (.transport message) => detail 502 message
  | .error _ => .status 500

/-- A workflow as a file, if it can be exported. -/
def exported (g : WorkflowGraph) : ApiAnswer :=
  match g.exportText with
  | .ok text => if text.isString then .file g.exportFilename text g.toJson else .status 500
  | .error _ => .status 500

/-- The definition of a type of node. -/
def definition (typeId : Text) : ApiAnswer :=
  match Catalog.builtin.lookup typeId with
  | some d => written 200 d.toJson
  | none => detail 404 ("Unknown node type: " ++ typeId)

/-- The answer of an endpoint that was found, given the log. -/
def answerAt (log : Log) (q : ApiRequest) (r : Run) : Endpoint → ApiAnswer × Run
  | .greeting =>
    (written 200 (.ofFields [("message", "flowgen n8n Workflow Generator API")]), r)
  | .nodes =>
    let listed := Catalog.builtin.listing (q.address.value "category") (q.address.value "search")
    (written 200 (.array (listed.map NodeDefinition.toJson)), r)
  | .node typeId => (definition typeId, r)
  | .generation =>
    match received GenerateRequest.check q.body with
    | .error answer => (answer, r)
    | .ok request =>
      let (result, r) := generate request r
      (generated result, r)
  | .exporting =>
    match received WorkflowGraph.check q.body with
    | .error answer => (answer, r)
    | .ok g => (exported g, r)
  | .logs => (written 200 (.ofTexts log.lines), r)
  | .manual => (.status 200, r)

/-- The answer to a request, given the log. -/
def answer (log : Log) (q : ApiRequest) (r : Run) : ApiAnswer × Run :=
  match Endpoint.find? q.address.path with
  | none => (detail 404 "Not Found", r)
  | some e =>
    if e.methods.contains q.method then answerAt log q r e
    else (detail 405 "Method Not Allowed", r)

/-- The header that says under which name a file is to be kept. -/
def disposition (name : Text) : Text :=
  "attachment; filename=\"" ++ name ++ "\""

end Api

end Automation
