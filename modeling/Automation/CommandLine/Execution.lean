import Automation.CommandLine.Command
import Automation.Generation
import Automation.Storage.Export

/-!
# Carrying out commands

What is seen of a command: what it shows, what it tells of its progress, which services it sets up,
what it stores, and which server it runs. A generation that fails because of the service ends with
the status one. Any other failure is a fault, of which nothing is seen but the progress so far.
-/

namespace Automation

/-- Why a command breaks down. -/
inductive CommandFault where
  /-- No workflow is generated. -/
  | generation (failure : Failure)
  /-- The workflow cannot be stored. -/
  | storage (fault : StorageFault)
  /-- The workflow cannot be shown. -/
  | dump (fault : DumpFault)
  deriving DecidableEq, Repr

/-- What is seen of a command. -/
structure CommandReport where
  /-- The status, or why it breaks down. -/
  status : Except CommandFault Nat := .ok 0
  /-- What it shows. -/
  shown : Text := []
  /-- The lines that it tells. -/
  told : List Text := []
  /-- What is stored afterwards. -/
  storage : Storage := {}
  /-- The services that it sets up: their kinds and settings. -/
  services : List (Option Text × Members) := []
  /-- The servers that it runs: their hosts and ports. -/
  servers : List (Option Text × Option Int) := []

namespace Command

variable [Limits]

/-- A text with blanks before it, up to a width. -/
def padLeft (width : Nat) (text : Text) : Text :=
  List.replicate (width - text.length) (.ofChar ' ') ++ text

/-- A text with blanks behind it, up to a width. -/
def padRight (width : Nat) (text : Text) : Text :=
  text ++ List.replicate (width - text.length) (.ofChar ' ')

/-- An event as a line. -/
def progressLine (e : ProgressEvent) : Text :=
  "[" ++ padLeft 3 (Json.writeInt e.progress) ++ "%] " ++ e.message

/-- The settings of the service that a generation uses. -/
def serviceSettings (backend : Option Text) (model : Text) : Members :=
  if model.isEmpty || backend = some "http" then [] else Json.membersOf [("model", model)]

/-- The lines that say what is noteworthy about a result. -/
def remarks (r : GenerationResult) : List Text :=
  (if r.fallbackStages.isEmpty then []
    else ["Stages that used defaults: " ++ Text.join ", " r.fallbackStages])
  ++ if r.unknownNodeTypes.isEmpty then []
    else ["Node types outside the catalog: " ++ Text.join ", " r.unknownNodeTypes]

/-- What is seen when a result is delivered: it is shown, or written to a file. -/
def deliver (report : CommandReport) (output : Text) (r : GenerationResult) : CommandReport :=
  let report := { report with told := report.told ++ remarks r }
  if output.isEmpty then
    match r.workflow.exportText with
    | .ok text => { report with shown := text ++ "\n" }
    | .error fault => { report with status := .error (.dump fault) }
  else
    match report.storage.writeWorkflow r.workflow (.ofText output) with
    | (.error fault, storage) => { report with status := .error (.storage fault), storage }
    | (.ok path, storage) =>
      { report with told := report.told ++ ["Workflow written to " ++ path.toText], storage }

/-- What is seen of a generation. -/
def executeGenerate (task output : Text) (backend : Option Text) (model : Text)
    (storage : Storage) (r : Run) : CommandReport :=
  let (result, r) := (Generator.new .builtin).generate (some .quiet) task r
  let report : CommandReport :=
    { told := r.events.map progressLine, storage
      services := [(backend, serviceSettings backend model)] }
  match result with
  | .error (.transport _) => { report with status := .ok 1 }
  | .error failure => { report with status := .error (.generation failure) }
  | .ok result => deliver report output result

/-- A definition as a line. -/
def definitionLine (d : NodeDefinition) : Text :=
  padRight 36 d.typeId ++ " " ++ padRight 20 d.displayName ++ " ["
    ++ Text.join "," d.categories ++ "]\n"

/-- Definitions as a document. -/
def definitionsText (ds : List NodeDefinition) : Text :=
  (Json.array (ds.map NodeDefinition.toJson)).write .asciiLines ++ "\n"

/-- What is seen of a command, given what is stored and how the service behaves. -/
def execute (c : Command) (storage : Storage) (r : Run) : CommandReport :=
  match c with
  | .generate task output backend model => executeGenerate task output backend model storage r
  | .nodes category search asJson =>
    let listed := Catalog.builtin.listing category search
    { storage
      shown := if asJson then definitionsText listed
        else listed.flatMap definitionLine }
  | .serve host port => { storage, servers := [(host, port)] }

end Command

end Automation
