import Automation.Json.Dump
import Automation.Storage.Path

/-!
# Storage

Files are stored in folders. A place is the list of names that lead to it from the topmost folder
without detours; what stands at a place is a folder or a file with its content. One folder is the
working folder, from which all paths lead that do not begin with a slash.

A path is followed name by name, and every name but the last has to lead to a folder. Following `..`
leads out of the folder that was really entered, so that `x/..` leads somewhere only if there is an
`x`; there is no way out of the topmost folder.
-/

namespace Automation

/-- What stands at a place. -/
inductive StorageEntry where
  /-- A folder. -/
  | folder
  /-- A file. -/
  | file (content : String)
  deriving DecidableEq, Repr

/-- The names that lead to something from the topmost folder. -/
abbrev Place := List Text

/-- Stored files and folders. The topmost folder is always there. -/
structure Storage where
  /-- What stands at places, each place once. -/
  entries : List (Place × StorageEntry) := []
  /-- The working folder. -/
  working : Place := []
  deriving DecidableEq, Repr

/-- Why something cannot be stored. -/
inductive StorageFault where
  /-- There is nothing at a place. -/
  | missing
  /-- There is something at a place already. -/
  | occupied
  /-- A file stands where a folder is needed. -/
  | notFolder
  /-- A folder stands where a file is needed. -/
  | isFolder
  /-- A path or a name is too long. -/
  | tooLong
  /-- Too many folders are missing on the way. -/
  | tooDeep
  /-- A name holds the null character. -/
  | nullCharacter
  /-- A path or a content is no string. -/
  | unencodable
  /-- A document cannot be written out. -/
  | unwritable (fault : DumpFault)
  deriving DecidableEq, Repr

namespace Storage

/-- The greatest length of a name in octets. -/
def nameLimit : Nat := 255

/-- What stands at a place. -/
def at? (s : Storage) (place : Place) : Option StorageEntry :=
  if place.isEmpty then some .folder else s.entries.lookup place

/-- Whether a folder stands at a place. -/
def hasFolder (s : Storage) (place : Place) : Bool :=
  s.at? place == some .folder

/-- The storage with something put at a place. -/
def put (s : Storage) (place : Place) (entry : StorageEntry) : Storage :=
  if (s.entries.lookup place).isSome then
    { s with entries := s.entries.map fun (p, e) => if p = place then (p, entry) else (p, e) }
  else { s with entries := s.entries ++ [(place, entry)] }

/-- The content of the file at a place. -/
def content? (s : Storage) (place : Place) : Option String :=
  match s.at? place with
  | some (.file content) => some content
  | _ => none

/-- The storage that has nothing but a working folder. -/
def empty (working : Place) : Storage :=
  ((List.range working.length).map fun n => working.take (n + 1)).foldl (fun s p => s.put p .folder)
    { working }

/-- The files under the working folder, by the names that lead to them from there. -/
def files (s : Storage) : List (Place × String) :=
  s.entries.filterMap fun (place, entry) =>
    match entry with
    | .folder => none
    | .file content =>
      if s.working.isPrefixOf place then some (place.drop s.working.length, content) else none

/-! ### Following paths -/

/-- Why a path cannot be followed at all. -/
def flaw? (p : StoragePath) : Option StorageFault :=
  if !p.toText.isString then some .unencodable
  else if p.hasNull then some .nullCharacter
  else if p.isTooLong then some .tooLong
  else none

/-- Where a path begins. -/
def start (s : Storage) (p : StoragePath) : Place :=
  if p.isRooted then [] else s.working

/-- The place to which a name leads from a place; nothing needs to be there. -/
def follow (s : Storage) (here : Place) (name : Text) : Except StorageFault Place :=
  if !s.hasFolder here then .error .notFolder
  else if name = ".." then .ok here.dropLast
  else if nameLimit < name.octets.length then .error .tooLong
  else .ok (here ++ [name])

/-- The place of what is found at the end of some names, the last of which comes first. -/
def find (s : Storage) (start : Place) : List Text → Except StorageFault Place
  | [] => .ok start
  | name :: above => do
    let here ← s.find start above
    let place ← s.follow here name
    if (s.at? place).isSome then .ok place else .error .missing

/-- Whether there is a folder at the end of some names. -/
def isFolder (s : Storage) (start : Place) (inward : List Text) : Except StorageFault Bool :=
  match s.find start inward with
  | .ok place => .ok (s.hasFolder place)
  | .error .missing => .ok false
  | .error .notFolder => .ok false
  | .error fault => .error fault

/-! ### Making folders -/

/-- The storage with a new folder at the end of some names, where nothing may be yet. -/
def makeFolder (s : Storage) (start : Place) : List Text → Except StorageFault Storage
  | [] => .error .occupied
  | name :: above => do
    let here ← s.find start above
    let place ← s.follow here name
    if (s.at? place).isSome then .error .occupied else .ok (s.put place .folder)

/-- A folder at the end of some names: one that is there, or a new one. -/
def ensureFolder (s : Storage) (start : Place) (inward : List Text) :
    Except StorageFault Unit × Storage :=
  match s.makeFolder start inward with
  | .ok s => (.ok (), s)
  | .error .missing => (.error .missing, s)
  | .error fault =>
    match s.isFolder start inward with
    | .ok true => (.ok (), s)
    | .ok false => (.error fault, s)
    | .error other => (.error other, s)

/-- A folder at the end of some names, with all folders on the way to it, given how many may be
missing there. If that fails in the end, the folders that were made stay. -/
def ensureFolders (s : Storage) (start : Place) (allowed : Nat) :
    List Text → Except StorageFault Unit × Storage
  | [] => s.ensureFolder start []
  | name :: above =>
    match s.ensureFolder start (name :: above), allowed with
    | (.error .missing, s), 0 => (.error .tooDeep, s)
    | (.error .missing, s), allowed + 1 =>
      match s.ensureFolders start allowed above with
      | (.ok (), s) => s.ensureFolder start (name :: above)
      | failed => failed
    | result, _ => result

/-- A folder at the end of a path, with all folders on the way to it. -/
def makeFolders [Limits] (s : Storage) (p : StoragePath) : Except StorageFault Unit × Storage :=
  match flaw? p with
  | some fault => (.error fault, s)
  | none => s.ensureFolders (s.start p) Limits.folders p.inward

/-! ### Writing files -/

/-- The place of a file at the end of some names, which may be a new one. -/
def filePlace (s : Storage) (start : Place) : List Text → Except StorageFault Place
  | [] => .error .isFolder
  | name :: above => do
    let here ← s.find start above
    let place ← s.follow here name
    if s.hasFolder place then .error .isFolder else .ok place

/-- The content of a file for a text that may not be there. -/
def encoded (text : Except DumpFault Text) : Except StorageFault String :=
  match text with
  | .error fault => .error (.unwritable fault)
  | .ok text =>
    match text.toString? with
    | none => .error .unencodable
    | some content => .ok content

/-- A text is written to the file at the end of a path. The file is emptied first, and stays empty
if there is no text after all or it cannot be written. -/
def writeText (s : Storage) (p : StoragePath) (text : Except DumpFault Text) :
    Except StorageFault Unit × Storage :=
  match flaw? p with
  | some fault => (.error fault, s)
  | none =>
    match s.filePlace (s.start p) p.inward with
    | .error fault => (.error fault, s)
    | .ok place =>
      match encoded text with
      | .error fault => (.error fault, s.put place (.file ""))
      | .ok content => (.ok (), s.put place (.file content))

end Storage

end Automation
