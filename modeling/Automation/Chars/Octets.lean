import Automation.Text

/-!
# Code points as octets

A code point is written as one to four octets, in the usual variable-length encoding. Reading is
lenient: an octet that begins no character, and the beginning of a character whose octets are
missing, are read as the replacement character, and reading goes on with the first octet that does
not fit. What is written of a string is read back as it was; of one half of a surrogate pair three
replacement characters are read.
-/

namespace Automation.Chars

/-- A character of which some octets are still owed. -/
structure Begun where
  /-- The bits that were read. -/
  value : Nat
  /-- How many octets are owed. -/
  owed : Nat
  /-- The least octet that may come next. -/
  least : Nat := 0x80
  /-- The greatest octet that may come next. -/
  greatest : Nat := 0xbf
  deriving DecidableEq, Repr

/-- The character that an octet begins, if it is the first one of several. -/
def begun? (octet : Nat) : Option Begun :=
  if 0xc2 ≤ octet ∧ octet ≤ 0xdf then some { value := octet - 0xc0, owed := 1 }
  else if octet = 0xe0 then some { value := 0, owed := 2, least := 0xa0 }
  else if octet = 0xed then some { value := 0xd, owed := 2, greatest := 0x9f }
  else if 0xe1 ≤ octet ∧ octet ≤ 0xef then some { value := octet - 0xe0, owed := 2 }
  else if octet = 0xf0 then some { value := 0, owed := 3, least := 0x90 }
  else if octet = 0xf4 then some { value := 4, owed := 3, greatest := 0x8f }
  else if 0xf1 ≤ octet ∧ octet ≤ 0xf3 then some { value := octet - 0xf0, owed := 3 }
  else none

/-- What an octet between characters gives. -/
def firstOctet (octet : Nat) : Text × Option Begun :=
  if octet < 0x80 then ([.ofNat octet], none)
  else
    match begun? octet with
    | some b => ([], some b)
    | none => ([.replacement], none)

/-- What an octet gives: the characters that are complete, and the one that has begun. -/
def nextOctet : Option Begun → Nat → Text × Option Begun
  | none, octet => firstOctet octet
  | some b, octet =>
    if b.least ≤ octet ∧ octet ≤ b.greatest then
      let value := b.value * 0x40 + (octet - 0x80)
      if b.owed ≤ 1 then ([.ofNat value], none) else ([], some { value, owed := b.owed - 1 })
    else
      let (cs, next) := firstOctet octet
      (.replacement :: cs, next)

/-- The characters of some octets, after a character that may have begun. -/
def ofOctetsFrom : Option Begun → List Nat → Text
  | none, [] => []
  | some _, [] => [.replacement]
  | state, octet :: rest =>
    let (cs, next) := nextOctet state octet
    cs ++ ofOctetsFrom next rest

/-- The octets of a code point. -/
def octets (c : CodePoint) : List Nat :=
  let n := c.value
  let tail (shift : Nat) := 0x80 + n / shift % 0x40
  if n < 0x80 then [n]
  else if n < 0x800 then [0xc0 + n / 0x40, tail 1]
  else if n < 0x10000 then [0xe0 + n / 0x1000, tail 0x40, tail 1]
  else [0xf0 + n / 0x40000, tail 0x1000, tail 0x40, tail 1]

end Automation.Chars

namespace Automation.Text

/-- The text that some octets are. -/
def ofOctets (octets : List Nat) : Text :=
  Chars.ofOctetsFrom none octets

/-- The octets of a text. -/
def octets (t : Text) : List Nat :=
  t.flatMap Chars.octets

/-- A text as a string: every half of a surrogate pair is replaced. -/
def legible (t : Text) : Text :=
  ofOctets t.octets

end Automation.Text
