import Automation.Completion.Request
import Automation.Completion.Setting

/-!
# Chat services

A chat service is shown a conversation and proposes next messages for it. The first proposal is the
completion, and a service that proposes nothing gives an empty one. A temperature of zero is a
setting like any other.
-/

namespace Automation

/-- A chat service. -/
structure ChatService where
  /-- Where it is. -/
  baseUrl : Json
  /-- The key that admits to it. -/
  apiKey : Json
  /-- The model that is used. -/
  model : Json
  /-- How much the proposals vary. -/
  temperature : Json
  /-- The greatest length of a proposal. -/
  maxTokens : Json
  /-- The time limit of a call in seconds. -/
  timeout : Json
  deriving DecidableEq, Repr

/-- What a chat service does at a call. -/
inductive ChatReply where
  /-- It proposes messages. -/
  | proposals (contents : List Json)
  /-- It takes too long. -/
  | timeout
  /-- It cannot be reached, and it may be said why. -/
  | unreachable (message : Option Text)
  /-- It answers with an error. -/
  | refusal (message : Text)
  /-- It breaks down in an unforeseen way. -/
  | crash (message : Text)
  deriving DecidableEq, Repr

namespace ChatService

/-- The names of the settings. -/
def settingNames : List Text :=
  ["base_url", "api_key", "model", "temperature", "max_tokens", "timeout"]

/-- A temperature, or the default if none is given. -/
def temperatureOf (settings : Members) : Json :=
  match settings.get? "temperature" with
  | none => .float (.ofDecimal false 2 (-1))
  | some .null => .float (.ofDecimal false 2 (-1))
  | some value => value

/-- A chat service with some settings. -/
def ofSettings (settings : Members) : ChatService where
  baseUrl := settings.setting "base_url" "http://localhost:1234/v1"
  apiKey := settings.setting "api_key" "lm-studio"
  model := settings.setting "model" "local-model"
  temperature := temperatureOf settings
  maxTokens := settings.setting "max_tokens" (.int 4000)
  timeout := settings.setting "timeout" Completion.defaultTimeout

/-- How the connection to a service is set up. The service is asked once at each call. -/
def connection (s : ChatService) : Json :=
  .ofFields [
    ("base_url", s.baseUrl), ("api_key", s.apiKey), ("timeout", s.timeout), ("max_retries", .int 0)]

/-- What a service is asked for a request. -/
def question (s : ChatService) (request : CompletionRequest) : Json :=
  .ofFields [
    ("model", s.model), ("messages", .array (request.messages.map ChatMessage.toJson)),
    ("temperature", s.temperature), ("max_tokens", s.maxTokens)]

/-- The completion that a service gives. -/
def completion (s : ChatService) : ChatReply → Except Failure Text
  | .proposals [] => .ok []
  | .proposals (content :: _) =>
    if content.isTruthy then Completion.givenText content else .ok []
  | .timeout => .error (Completion.timedOut s.timeout)
  | .unreachable message =>
    .error (.transport ("Could not reach completion service at " ++ s.baseUrl.display
      ++ ": " ++ message.getD "Connection error."))
  | .refusal message => .error (.transport ("Completion service error: " ++ message))
  | .crash message => .error (.crash message)

end ChatService

end Automation
