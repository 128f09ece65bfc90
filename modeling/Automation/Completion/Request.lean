import Automation.Record

/-!
# Requests for completions

What a text is to be completed from: a message, the conversation before it and instructions for the
whole conversation.
-/

namespace Automation

/-- A message of a conversation. -/
structure ChatMessage where
  /-- Who speaks. -/
  role : Text
  /-- What is said. -/
  content : Text
  deriving DecidableEq, Repr

/-- A request for a completion. -/
structure CompletionRequest where
  /-- The message to be answered. -/
  userMessage : Text
  /-- The conversation before it. -/
  history : List ChatMessage := []
  /-- Instructions for the whole conversation. -/
  systemPrompt : Text := []
  deriving DecidableEq, Repr

/-- The completion of a request. -/
structure CompletionResponse where
  /-- The text. -/
  text : Text
  deriving DecidableEq, Repr

namespace ChatMessage

/-- A message as a document. -/
def toJson (m : ChatMessage) : Json :=
  .ofFields [("role", m.role), ("content", m.content)]

/-- A message from the members of a document. -/
def ofMembers (members : Members) : Checked ChatMessage :=
  ChatMessage.mk <$> members.required ["role"] (.leaf Json.text?)
    <*> members.required ["content"] (.leaf Json.text?)

end ChatMessage

namespace CompletionRequest

/-- A request as a document. -/
def toJson (r : CompletionRequest) : Json :=
  .ofFields [
    ("userMessage", r.userMessage),
    ("conversationHistory", .array (r.history.map ChatMessage.toJson)),
    ("systemPrompt", r.systemPrompt)]

/-- A request from the members of a document. -/
def ofMembers (members : Members) : Checked CompletionRequest :=
  CompletionRequest.mk <$> members.required ["userMessage"] (.leaf Json.text?)
    <*> members.optional ["conversationHistory"] []
      (Json.list (Json.record ChatMessage.ofMembers))
    <*> members.optional ["systemPrompt"] [] (.leaf Json.text?)

/-- A request from a document. -/
def check : Json → Checked CompletionRequest :=
  Json.record ofMembers

/-- A request as one conversation: the instructions, if there are any, what was said before, and the
message to be answered. -/
def messages (r : CompletionRequest) : List ChatMessage :=
  (if r.systemPrompt.isEmpty then [] else [⟨"system", r.systemPrompt⟩])
    ++ r.history ++ [⟨"user", r.userMessage⟩]

end CompletionRequest

namespace CompletionResponse

/-- A completion as a document. -/
def toJson (r : CompletionResponse) : Json :=
  .ofFields [("text", r.text)]

/-- A completion from the members of a document. -/
def ofMembers (members : Members) : Checked CompletionResponse :=
  CompletionResponse.mk <$> members.required ["text"] (.leaf Json.text?)

end CompletionResponse

end Automation
