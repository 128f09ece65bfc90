import Automation.Chars.Octets

/-!
# Encodings of documents

Octets that are meant for a document are read by octets, by pairs or by fours of them. Which it is
can be told from the zeros among the first four octets, since a document begins with characters
that take one octet each. A mark of the octet order at the beginning of octets does not belong to
the document.

Reading by pairs gives the halves of surrogate pairs, which are joined if they stand together.
-/

namespace Automation.Chars

/-- Which octet of several comes first. -/
inductive OctetOrder where
  /-- The one that counts most. -/
  | greatFirst
  /-- The one that counts least. -/
  | smallFirst
  deriving DecidableEq, Repr

/-- How a code point is kept in octets. -/
inductive Encoding where
  /-- In as many octets as it needs. -/
  | single
  /-- In pairs of octets. -/
  | pairs (order : OctetOrder)
  /-- In four octets. -/
  | fours (order : OctetOrder)
  deriving DecidableEq, Repr

namespace Encoding

/-- How some octets are meant. -/
def detect : List Nat → Encoding
  | [a, b] => if a = 0 then pairs .greatFirst else if b = 0 then pairs .smallFirst else single
  | a :: b :: c :: d :: _ =>
    if a = 0 then (if b = 0 then fours .greatFirst else pairs .greatFirst)
    else if b = 0 then (if c = 0 ∧ d = 0 then fours .smallFirst else pairs .smallFirst)
    else single
  | _ => single

/-- The number that some octets are together. -/
def numberOf (order : OctetOrder) (octets : List Nat) : Nat :=
  (match order with
    | .greatFirst => octets
    | .smallFirst => octets.reverse).foldl (fun n octet => n * 0x100 + octet) 0

/-- The numbers that pairs of octets are; nothing if an octet is left. -/
def pairNumbers? (order : OctetOrder) : List Nat → Option (List Nat)
  | [] => some []
  | a :: b :: rest => (pairNumbers? order rest).map fun more => numberOf order [a, b] :: more
  | _ => none

/-- The numbers that fours of octets are; nothing if octets are left. -/
def fourNumbers? (order : OctetOrder) : List Nat → Option (List Nat)
  | [] => some []
  | a :: b :: c :: d :: rest =>
    (fourNumbers? order rest).map fun more => numberOf order [a, b, c, d] :: more
  | _ => none

/-- Code points with the halves of surrogate pairs joined. -/
def joined : Text → Text
  | a :: b :: rest =>
    if a.isHighHalf && b.isLowHalf then CodePoint.joinHalves a b :: joined rest
    else a :: joined (b :: rest)
  | t => t

/-- The code point with a number, if there is one. -/
def point? (n : Nat) : Option CodePoint :=
  if h : n < 0x110000 then some ⟨n, h⟩ else none

/-- The text that some octets are, if they are one. -/
def decode? (octets : List Nat) : Encoding → Option Text
  | single =>
    let t := Text.ofOctets octets
    some (if t.head? = some ('\ufeff' : CodePoint) then t.drop 1 else t)
  | pairs order => ((pairNumbers? order octets).bind fun ns => ns.mapM point?).map joined
  | fours order => (fourNumbers? order octets).bind fun ns => ns.mapM point?

end Encoding

end Automation.Chars

namespace Automation.Text

/-- The document that a text is meant for if its octets are looked at. -/
def document? (t : Text) : Option Text :=
  (Chars.Encoding.detect t.octets).decode? t.octets

end Automation.Text
