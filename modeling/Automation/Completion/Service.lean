import Automation.Chars.Case
import Automation.Completion.Chat
import Automation.Completion.Proxy

/-!
# Completion services

A service that completes texts is a chat service or a proxy. Which one is said by a name, in which
the case of letters does not matter; without a name it is a chat service. The name is no setting.
-/

namespace Automation

/-- A service that completes texts. -/
inductive CompletionService where
  /-- A chat service. -/
  | chat (service : ChatService)
  /-- A proxy. -/
  | proxy (service : ProxyService)
  deriving DecidableEq, Repr

namespace CompletionService

/-- Why a service cannot be set up. -/
inductive SetupFault where
  /-- There is no kind of service with a name. -/
  | unknownKind (name : Text)
  /-- There is no setting with some name. -/
  | unknownSetting
  /-- What should be a name is no text. -/
  | notText
  deriving DecidableEq, Repr

/-- What is told of a fault, if it has a wording that counts. -/
def SetupFault.message? : SetupFault → Option Text
  | unknownKind name => some ("Unknown completion backend: " ++ name)
  | unknownSetting => none
  | notText => none

/-- The name of a kind of service, in lower case; empty if none is given. -/
def kindNamed : Json → Except SetupFault Text
  | .text kind => .ok kind.lower
  | value => if value.isTruthy then .error .notText else .ok []

/-- A service of a kind with some settings. -/
def ofKind (kind : Text) (settings : Members) : Except SetupFault CompletionService :=
  if kind = [] ∨ kind = "openai" then
    if settings.onlyNames ChatService.settingNames then .ok (.chat (.ofSettings settings))
    else .error .unknownSetting
  else if kind = "http" then
    if settings.onlyNames ProxyService.settingNames then .ok (.proxy (.ofSettings settings))
    else .error .unknownSetting
  else .error (.unknownKind kind)

/-- A service of a kind that a value names, with some settings. -/
def setUp (kind : Json) (settings : Members) : Except SetupFault CompletionService :=
  if (settings.get? "backend").isSome then .error .unknownSetting
  else
    match kindNamed kind with
    | .ok kind => ofKind kind settings
    | .error fault => .error fault

/-- The service that is used if nothing is said. -/
def standard : CompletionService :=
  .chat (.ofSettings [])

end CompletionService

end Automation
