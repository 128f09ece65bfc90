import Automation.Json.Reader

/-!
# Failures

Why a run ends without a result. Failures of the service that completes texts are told with a
message of their own; the others have a fixed wording or none.
-/

namespace Automation

/-- Why a run ends without a result. -/
inductive Failure where
  /-- The service could not be reached, took too long or answered with an error. -/
  | transport (message : Text)
  /-- The service broke down in an unforeseen way. -/
  | crash (message : Text)
  /-- A completion holds a document that exceeds a limit. -/
  | beyond (limit : Json.Limit)
  /-- A step declares an infinite number, or a pause is too long to be counted. -/
  | unbounded
  /-- There is no task. -/
  | noTask
  /-- The task is blank. -/
  | blankTask
  /-- An entry of the store is missing. -/
  | missing (key : String)
  /-- Some places of a record do not hold what they should. -/
  | invalid (places : List String)
  /-- A record cannot be written because there is half of a surrogate pair in it, or a value with too many
  levels. -/
  | unwritable
  /-- The stages that fell back are not kept as a list. -/
  | noRecord
  /-- A hook of a stage or a service is missing. -/
  | notImplemented
  deriving DecidableEq, Repr

namespace Failure

/-- What is told of a limit that a document exceeds. -/
def limitMessage : Json.Limit → Option String
  | .depth => none
  | .digits count =>
    some ("Exceeds the limit (4300 digits) for integer string conversion: value has "
      ++ toString count ++ " digits; use sys.set_int_max_str_digits() to increase the limit")

/-- What is told of a failure, if it has a wording that counts. -/
def message? : Failure → Option Text
  | transport message => some message
  | beyond limit => (limitMessage limit).map .ofString
  | noTask => some "Missing required 'task' in shared store"
  | blankTask => some "Task description must not be empty"
  | _ => none

end Failure

end Automation
