/-!
# Limits of the platform

How deep documents may nest, and how many folders are made on the way to another, is up to the platform: it
depends on the stack that is left and on the libraries that are installed, and no code says so. What is
stated here about reading, writing and storing is therefore stated for all limits.
-/

namespace Automation

/-- The limits of a platform. -/
class Limits where
  /-- How many levels of arrays and objects a document may have that is read. -/
  nesting : Nat
  /-- How many levels a value may have that is written out, where what is neither an array nor an object is
  a level too. -/
  depth : Nat
  /-- How many folders may be missing on the way to another that is made. -/
  folders : Nat
  /-- Documents with a few levels are read everywhere. -/
  four_le_nesting : 4 ≤ nesting
  /-- Values with a few levels are written out everywhere. -/
  four_le_depth : 4 ≤ depth

namespace Limits

/-- Limits that are common. They are for runs and examples: only what opens `Limits` is about them. -/
scoped instance common : Limits where
  nesting := 990
  depth := 255
  folders := 970
  four_le_nesting := by decide
  four_le_depth := by decide

end Limits

end Automation
