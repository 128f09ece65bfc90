import Automation.CommandLine.Execution
import Automation.Server.Api

/-!
# The program

The outer layer: it reads the command line and standard input, and shows what comes of it. Standard
input takes the place of the network. For a generation it holds the completions of the service, one
a line, where a line that is a quoted text stands for that text. For the server it holds the
requests, one a line: a method, an address and perhaps a document.
-/

namespace Automation.Program

open scoped Limits

/-- The lines of standard input. -/
partial def inputLines : IO (List String) := do
  let input ← IO.getStdin
  let rec loop (lines : List String) : IO (List String) := do
    let line ← input.getLine
    if line.isEmpty then return lines.reverse
    loop ((if line.endsWith "\n" then (line.dropEnd 1).toString else line) :: lines)
  loop []

/-- The reply that a line stands for. -/
def replyOf (line : String) : Reply :=
  match Json.read line with
  | .ok (.text text) => .text text
  | _ => .text line

/-- The request that a line stands for, if it names an address. -/
def requestOf (line : String) : Except AddressFault ApiRequest := do
  let words := line.splitOn " "
  let body := String.intercalate " " (words.drop 2)
  let address ← Address.ofText? ((words.drop 1).headD "/")
  return { method := words.headD "", address, body := if body.isEmpty then none else some body }

/-- A text as it is shown. -/
def shown (t : Text) : String :=
  t.legible.toString?.getD ""

/-- An answer of the server as it is shown. -/
def answerText : ApiAnswer → String
  | .document status content =>
    toString status ++ " " ++ shown (content.write .asciiLine)
  | .file name content _ => "200 " ++ shown (Api.disposition name) ++ "\n" ++ shown content
  | .status status => toString status

/-- Why a command breaks down, as it is shown. -/
def faultText : CommandFault → String
  | .generation failure =>
    (failure.message?.map shown).getD "The workflow could not be generated"
  | .storage _ => "The workflow could not be stored"
  | .dump fault => (fault.message?.map shown).getD "The workflow could not be shown"

/-- The place of the working folder. -/
def workingPlace : IO Place := do
  let here ← IO.currentDir
  return (StoragePath.ofText here.toString).names

/-- What stands along a path already, as far as it matters: folders, and files without their
contents. -/
def surroundings (p : StoragePath) : IO Storage := do
  let here ← IO.currentDir
  let mut storage := Storage.empty (← workingPlace)
  for n in List.range p.names.length do
    let along : StoragePath := { p with names := p.names.take (n + 1) }
    let found := here / shown along.toText
    if ← found.isDir then storage := (storage.makeFolders along).2
    else if ← found.pathExists then storage := (storage.writeText along (.ok [])).2
  return storage

/-- What was not stored before is written. -/
def store (before after : Storage) : IO Unit :=
  for (place, entry) in after.entries do
    unless before.entries.contains (place, entry) do
      let path := "/" ++ shown (Text.join "/" place)
      match entry with
      | .folder => IO.FS.createDirAll path
      | .file content => IO.FS.writeFile path content

/-- The server answers the requests of standard input, one after the other. -/
partial def serve : IO Unit := do
  let input ← IO.getStdin
  let rec loop (log : Log) : IO Unit := do
    let line ← input.getLine
    if line.isEmpty then return
    match requestOf line.trimAscii.toString with
    | .ok request => IO.println (answerText (Api.answer log request { replies := [] }).1)
    | .error _ => IO.println "400"
    loop log
  loop []

/-- A command is carried out; the answer is its status. -/
def carryOut (command : Command) : IO Nat := do
  let (output, replies) ← match command with
    | .generate _ output _ _ => pure (output, (← inputLines).map replyOf)
    | _ => pure ([], [])
  let before ← surroundings (.ofText output)
  let report := command.execute before { replies }
  for line in report.told do IO.eprintln (shown line)
  IO.print (shown report.shown)
  store before report.storage
  unless report.servers.isEmpty do serve
  match report.status with
  | .ok status => return status
  | .error fault =>
    IO.eprintln (faultText fault)
    return 1

end Automation.Program

/-- Carries out a command line. -/
def main (line : List String) : IO UInt32 := do
  match Automation.Command.read (line.map .ofString) with
  | .error refusal => return (Automation.Command.refusalStatus refusal).toUInt32
  | .ok command => return (← Automation.Program.carryOut command).toUInt32
