import Automation.Chars.Octets

/-!
# Paths

A path leads from a folder to a file or another folder, one name after the other. The name `..`
leads one folder up. A path is kept as it is shown: empty names and the name `.` are left out, as
they lead nowhere. A path that begins with a slash leads from the topmost folder; two slashes at its
beginning are kept, more than two are one.

A path can be followed only if it is a string without the null character and not too long.
-/

namespace Automation

/-- A path. -/
structure StoragePath where
  /-- The slashes at its beginning. -/
  root : Text := []
  /-- The names along it. -/
  names : List Text
  deriving DecidableEq, Repr

namespace StoragePath

/-- The slashes with which a path begins. -/
def rootOf (text : Text) : Text :=
  match (text.takeWhile fun (c : CodePoint) => c == '/').length with
  | 0 => ""
  | 2 => "//"
  | _ => "/"

/-- Whether a part of a text is a name that leads somewhere. -/
def leads (part : Text) : Bool :=
  !part.isEmpty && part != "."

/-- The path that a text describes. -/
def ofText (text : Text) : StoragePath where
  root := rootOf text
  names := (text.splitOn ('/' : CodePoint)).filter leads

/-- A path as it is shown. -/
def toText (p : StoragePath) : Text :=
  if p.root.isEmpty && p.names.isEmpty then "." else p.root ++ Text.join "/" p.names

/-- Whether a path leads from the topmost folder. -/
def isRooted (p : StoragePath) : Bool :=
  !p.root.isEmpty

/-- A path with one more name. -/
def enter (p : StoragePath) (name : Text) : StoragePath :=
  { p with names := p.names ++ [name] }

/-- The names along a path, the last one first. -/
def inward (p : StoragePath) : List Text :=
  p.names.reverse

/-- Whether a path holds the null character. -/
def hasNull (p : StoragePath) : Bool :=
  p.names.any fun name => name.contains '\x00'

/-- The least length in octets that is too much for a path as it is shown. -/
def lengthLimit : Nat := 4096

/-- Whether a path is too long to be followed. -/
def isTooLong (p : StoragePath) : Bool :=
  decide (lengthLimit ≤ p.toText.octets.length)

/-- A path without its last name. -/
def parent (p : StoragePath) : StoragePath :=
  { p with names := p.names.dropLast }

end StoragePath

end Automation
