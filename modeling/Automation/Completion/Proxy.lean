import Automation.Completion.Request
import Automation.Completion.Setting

/-!
# Completion proxies

A proxy is sent a request as a document and answers with a document, an object that holds the
completion under `text`. Its answer has a status; from 400 up to 599 the status tells of an error.
-/

namespace Automation

/-- A completion proxy. -/
structure ProxyService where
  /-- Where it is. -/
  endpoint : Json
  /-- The time limit of a call in seconds. -/
  timeout : Json
  deriving DecidableEq, Repr

/-- What an answer of a proxy holds. -/
inductive ProxyBody where
  /-- A text. -/
  | text (body : Text)
  /-- Something that cannot be read as a text. -/
  | unreadable
  deriving DecidableEq, Repr

/-- What a proxy does at a call. -/
inductive ProxyReply where
  /-- It answers. -/
  | answer (status : Int) (reason : Text) (body : ProxyBody)
  /-- It takes too long. -/
  | timeout
  /-- It cannot be reached. -/
  | unreachable (message : Text)
  /-- What comes back is no answer. -/
  | garbled
  /-- It breaks down in an unforeseen way. -/
  | crash (message : Text)
  deriving DecidableEq, Repr

namespace ProxyService

/-- The names of the settings. -/
def settingNames : List Text :=
  ["endpoint", "timeout"]

/-- A proxy with some settings. -/
def ofSettings (settings : Members) : ProxyService where
  endpoint := settings.setting "endpoint" "http://localhost:3000/api/claude"
  timeout := settings.setting "timeout" Completion.defaultTimeout

/-- What is sent to a proxy for a request. -/
def post (p : ProxyService) (request : CompletionRequest) : Json :=
  .ofFields [("url", p.endpoint), ("json", request.toJson), ("timeout", p.timeout)]

/-- What is told of an error. -/
def endpointError (message : Text) : Failure :=
  .transport ("Completion endpoint error: " ++ message)

/-- What is told of an answer that is no document. -/
def noDocument : Failure :=
  .transport "Completion endpoint returned a non-JSON body"

/-- What is told of a document without a completion. -/
def noText : Failure :=
  .transport "No response text received from completion endpoint"

/-- The kind of error that a status tells of. -/
def errorKind? (status : Int) : Option String :=
  if 400 ≤ status ∧ status < 500 then some "Client Error"
  else if 500 ≤ status ∧ status < 600 then some "Server Error"
  else none

/-- The completion in a document. -/
def completionIn : Json → Except Failure Text
  | .object members =>
    match Members.get? members "text" with
    | some (.text text) => Completion.givenText (.text text)
    | _ => .error noText
  | _ => .error noText

/-- The completion in what an answer holds. -/
def readBody [Limits] : ProxyBody → Except Failure Text
  | .unreadable => .error noDocument
  | .text body =>
    match Json.read body with
    | .ok document => completionIn document
    | .error (.malformed flaw left) => .error (endpointError (flaw.messageIn body left))
    | .error (.beyond (.digits _)) => .error noDocument
    | .error (.beyond .depth) => .error (.beyond .depth)

/-- The completion that a proxy gives. -/
def completion [Limits] (p : ProxyService) : ProxyReply → Except Failure Text
  | .answer status reason body =>
    match errorKind? status with
    | some kind =>
      .error (endpointError (Json.writeInt status ++ " " ++ kind ++ ": " ++ reason ++ " for url: "
        ++ p.endpoint.display))
    | none => readBody body
  | .timeout => .error (Completion.timedOut p.timeout)
  | .unreachable message => .error (endpointError message)
  | .garbled => .error noDocument
  | .crash message => .error (.crash message)

end ProxyService

end Automation
