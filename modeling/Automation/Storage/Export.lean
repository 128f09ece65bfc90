import Automation.Graph.Export
import Automation.Storage.Basic

/-!
# Writing workflows

A workflow is written to a file, or into a folder under its own file name. Folders that are missing
on the way are made. Its text is made when the file has been opened, that is, emptied.
-/

namespace Automation.Storage

/-- The path at which a workflow is written: in a folder it is a file with the file name of the
workflow. A path that is no string or holds the null character leads to no folder. -/
def exportPath (s : Storage) (g : WorkflowGraph) (p : StoragePath) :
    Except StorageFault StoragePath :=
  match flaw? p with
  | some .tooLong => .error .tooLong
  | some _ => .ok p
  | none =>
    (s.isFolder (s.start p) p.inward).map fun isFolder =>
      if isFolder then p.enter g.exportFilename else p

/-- A workflow is written; the answer is where. -/
def writeWorkflow [Limits] (s : Storage) (g : WorkflowGraph) (p : StoragePath) :
    Except StorageFault StoragePath × Storage :=
  match s.exportPath g p with
  | .error fault => (.error fault, s)
  | .ok target =>
    match s.makeFolders target.parent with
    | (.error fault, s) => (.error fault, s)
    | (.ok (), s) =>
      match s.writeText target g.exportText with
      | (.error fault, s) => (.error fault, s)
      | (.ok (), s) => (.ok target, s)

end Automation.Storage
