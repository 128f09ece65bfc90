import Automation.Text

/-!
# The log

The last lines that were logged are kept, up to a limit. Lines for debugging are not.
-/

namespace Automation

/-- How important a line is. -/
inductive LogLevel where
  /-- For debugging. -/
  | debug
  /-- For information. -/
  | info
  /-- A warning. -/
  | warning
  /-- An error. -/
  | error
  /-- An error that ends everything. -/
  | critical
  deriving DecidableEq, Repr

/-- A line of the log. -/
structure LogRecord where
  /-- How important it is. -/
  level : LogLevel
  /-- Who says it. -/
  logger : Text
  /-- What is said. -/
  message : Text
  deriving DecidableEq, Repr

/-- The lines that are kept, the oldest first. -/
abbrev Log := List LogRecord

namespace LogLevel

/-- The name of a level. -/
def name : LogLevel → String
  | debug => "DEBUG"
  | info => "INFO"
  | warning => "WARNING"
  | error => "ERROR"
  | critical => "CRITICAL"

/-- The level with a name. -/
def ofName? (text : Text) : Option LogLevel :=
  [debug, info, warning, error, critical].find? fun level => (level.name : Text) == text

end LogLevel

namespace LogRecord

/-- The line as it is shown after its time. -/
def line (r : LogRecord) : Text :=
  (if r.logger.isEmpty then .ofString "root" else r.logger) ++ " - " ++ r.level.name ++ " - "
    ++ r.message

end LogRecord

namespace Log

/-- How many lines are kept. -/
def limit : Nat := 100

/-- The log after one more line. -/
def add (log : Log) (r : LogRecord) : Log :=
  if r.level = .debug then log else (log ++ [r]).drop (log.length + 1 - limit)

/-- The log after some lines. -/
def ofRecords (records : List LogRecord) : Log :=
  records.foldl add []

/-- The lines as they are shown. -/
def lines (log : Log) : List Text :=
  log.map LogRecord.line

end Log

end Automation
