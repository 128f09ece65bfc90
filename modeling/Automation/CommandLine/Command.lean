import Automation.CommandLine.Options
import Automation.Number.Numeral

/-!
# Commands

There are three commands: one generates a workflow for a task, one lists the types of nodes, and one
runs the server. Texts that may be left out are empty then, but a kind of service, a host and a port
have a default. They are missing only if an option was given without a value.
-/

namespace Automation

/-- A command. -/
inductive Command where
  /-- A workflow is generated for a task, and written to a file or shown. -/
  | generate (task output : Text) (backend : Option Text) (model : Text)
  /-- The types of nodes are listed: those of a group, or those found by a text. -/
  | nodes (category search : Text) (asJson : Bool)
  /-- The server is run. -/
  | serve (host : Option Text) (port : Option Int)
  deriving DecidableEq, Repr

namespace Command

/-- The option by which more is logged. -/
def verbose : CommandOption := { names := ["-v", "--verbose"], takesValue := false }

/-- The kinds of services. -/
def backends : List Text := ["openai", "http"]

/-- The options of the command that generates a workflow. -/
def generateOptions : List CommandOption := [
  .help, { names := ["-o", "--output"] },
  { names := ["--backend"], accepts := fun value => backends.contains value },
  { names := ["--model"] }]

/-- The options of the command that lists the types of nodes. -/
def nodesOptions : List CommandOption := [
  .help, { names := ["--category"] }, { names := ["--search"] },
  { names := ["--json"], takesValue := false }]

/-- The options of the command that runs the server. -/
def serveOptions : List CommandOption := [
  .help, { names := ["--host"] },
  { names := ["--port"], accepts := fun value => (Numeral.integer value).isSome }]

/-- The value of an option that may be left out; a value that is missing is empty. -/
def textOf (r : CommandReading) (label : Text) : Text :=
  ((r.value? label).getD none).getD []

/-- The host on which the server is run by default. -/
def defaultHost : Text := "0.0.0.0"

/-- The port on which the server is run by default. -/
def defaultPort : Int := 8000

/-- The kind of service that is used by default. -/
def defaultBackend : Text := "openai"

/-- A generation with what was read. -/
def ofGeneration (r : CommandReading) : Command :=
  .generate (r.operands.headD []) (textOf r "--output")
    ((r.value? "--backend").getD (some defaultBackend)) (textOf r "--model")

/-- A listing with what was read. -/
def ofListing (r : CommandReading) : Command :=
  .nodes (textOf r "--category") (textOf r "--search") (r.value? "--json").isSome

/-- A server with what was read. -/
def ofServer (r : CommandReading) : Command :=
  .serve ((r.value? "--host").getD (some defaultHost))
    (match r.value? "--port" with
      | none => some defaultPort
      | some value => value.bind Numeral.integer)

/-- The commands by their names: how each is read from the words behind its name, and whether there
is anything in excess. -/
def named : List (Text × (List Text → Except Refusal (Command × Bool))) := [
  ("generate", fun line =>
    (CommandOption.readLine generateOptions .one line).map fun r => (ofGeneration r, r.excess)),
  ("nodes", fun line =>
    (CommandOption.readLine nodesOptions .none line).map fun r => (ofListing r, r.excess)),
  ("serve", fun line =>
    (CommandOption.readLine serveOptions .none line).map fun r => (ofServer r, r.excess))]

/-- The command with a name, read from the words behind it, and whether there is anything in excess.
-/
def readNamed (name : Text) (line : List Text) : Except Refusal (Command × Bool) :=
  match named.lookup name with
  | some read => read line
  | none => .error .misuse

/-- The command of a command line. -/
def read (line : List Text) : Except Refusal Command := do
  let outer ← CommandOption.readLine [.help, verbose] .command line
  match outer.operands with
  | [] => .error .misuse
  | name :: rest =>
    let (command, excess) ← readNamed name rest
    if outer.excess || excess then .error .misuse else .ok command

/-- The status with which a command line is refused. -/
def refusalStatus : Refusal → Nat
  | .help => 0
  | .misuse => 2

end Command

end Automation
