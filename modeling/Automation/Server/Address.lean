import Automation.Chars.Octets
import Automation.Json.Reader

/-!
# Addresses

An address is a path and a query, a list of names with values. In both a percent sign with two
hexadecimal digits stands for an octet; any other percent sign stands for itself. A path is resolved
twice, so that an escaped percent sign may escape once more.

## Paths

The scheme and the host in front of a path do not matter. Before percent signs are resolved, the
name `.` is left out of a path, and the name `..` takes away the name before it.
-/

namespace Automation

/-- An address. -/
structure Address where
  /-- The path. -/
  path : Text
  /-- The names of the query with their values, in order. -/
  query : List (Text × Text) := []
  deriving DecidableEq, Repr

/-- Why a text is no address. -/
inductive AddressFault where
  /-- It is too long, holds a control character, or has a path that could be taken for a host or a
  scheme. -/
  | malformed
  /-- It is no string. -/
  | notString
  deriving DecidableEq, Repr

namespace Address

/-- The octets of a text in which some are written as percent signs with digits. -/
def octets : Text → List Nat
  | c :: a :: b :: rest =>
    if c = '%' then
      match Json.hexValue a, Json.hexValue b with
      | some high, some low => (high * 16 + low) :: octets rest
      | _, _ => Chars.octets c ++ octets (a :: b :: rest)
    else Chars.octets c ++ octets (a :: b :: rest)
  | t => t.octets

/-- A text with all percent signs resolved. -/
def resolved (t : Text) : Text :=
  .ofOctets (octets t)

/-! ### Queries -/

/-- A name of a query with its value. -/
def queryItem (t : Text) : Text × Text :=
  let spaced : Text := t.map fun (c : CodePoint) => if c = '+' then (' ' : CodePoint) else c
  (resolved (Text.before '=' spaced), resolved (Text.behind '=' spaced))

/-- The names of a query with their values. -/
def queryItems (t : Text) : List (Text × Text) :=
  ((t.splitOn ('&' : CodePoint)).filter fun item => !item.isEmpty).map queryItem

/-- The value of a name in the query; the last one counts, and a missing one is empty. -/
def value (a : Address) (name : Text) : Text :=
  (a.query.reverse.lookup name).getD []

/-! ### Paths -/

/-- The names of a path after those that are kept so far, the last one first. -/
def undotted (kept : List Text) : List Text → List Text
  | [] => kept.reverse
  | name :: rest =>
    if name = "." then undotted kept rest
    else if name = ".." then undotted (if kept = [[]] then kept else kept.drop 1) rest
    else undotted (name :: kept) rest

/-- A path without the names `.` and `..`. -/
def withoutDots (path : Text) : Text :=
  let names := path.splitOn ('/' : CodePoint)
  if names.contains "." || names.contains ".." then
    match Text.join "/" (undotted [] names) with
    | [] => "/"
    | path => path
  else path

/-- Whether a code point may stand in a scheme behind its first letter. -/
def isSchemePoint (c : CodePoint) : Bool :=
  c.toLower.isLower || c.isDigit || (['+', '.', '-'] : Text).contains c

/-- The scheme in front of a text, and what follows it. -/
def cutScheme (t : Text) : Text × Text :=
  let name := if (t.head?.map fun c => c.toLower.isLower) = some true
    then t.takeWhile isSchemePoint else []
  match t.drop name.length with
  | c :: rest => if c = ':' then (name, rest) else ([], t)
  | [] => ([], t)

/-- The host in front of a text, and what follows it. -/
def cutHost (t : Text) : Text × Text :=
  if ("//" : Text).isPrefixOf t then
    let isInside := fun (c : CodePoint) => !(['/', '?', '#'] : Text).contains c
    ((t.drop 2).takeWhile isInside, (t.drop 2).dropWhile isInside)
  else ([], t)

/-- A path with exactly one slash at its beginning. -/
def rooted (path : Text) : Text :=
  '/' :: path.dropWhile fun (c : CodePoint) => c == '/'

/-- The path of an address, given the scheme and the host in front of it. -/
def pathOf? (scheme host path : Text) : Option Text :=
  if scheme.isEmpty && host.isEmpty && (("//" : Text).isPrefixOf path || path.head? = some ':') then
    none
  else
    let whole := if scheme.isEmpty || host.isEmpty || path.isEmpty then rooted path else path
    some (resolved (resolved (withoutDots whole)))

/-- The greatest length of a text that describes an address. -/
def lengthLimit : Nat := 65536

/-- Whether a code point is a control character. -/
def isControl (c : CodePoint) : Bool :=
  decide (c.value < 0x20) || decide (c.value = 0x7f)

/-- The address that a text describes. What follows a number sign is no part of it. -/
def ofText? (text : Text) : Except AddressFault Address :=
  if lengthLimit < text.length ∨ text.any isControl then .error .malformed
  else
    let (scheme, rest) := cutScheme text
    let (host, rest) := cutHost rest
    let rest := Text.before '#' rest
    match pathOf? scheme host (Text.before '?' rest) with
    | none => .error .malformed
    | some path =>
      if text.isString then .ok ⟨path, queryItems (Text.behind '?' rest)⟩ else .error .notString

end Address

end Automation
