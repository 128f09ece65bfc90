import Automation.Chars.Ranges

/-!
# Blank characters and trimming

The blank characters are the white space of Unicode together with the four information separators
U+001C to U+001F. The zero width space U+200B and the byte order mark U+FEFF are not blank.

## Trimming

`Text.trim` removes blanks from both ends of a text and `Text.trimEnd` from its end only.
-/

namespace Automation.Chars

/-- The blank code points. -/
def blanks : CodeSet where
  ranges := [
    (0x9, 0xd), (0x1c, 0x20), (0x85, 0x85), (0xa0, 0xa0), (0x1680, 0x1680), (0x2000, 0x200a),
    (0x2028, 0x2029), (0x202f, 0x202f), (0x205f, 0x205f), (0x3000, 0x3000)]

/-- Whether a code point is blank. -/
def isBlank (c : CodePoint) : Bool :=
  blanks.contains c

end Automation.Chars

namespace Automation.Text

/-- A text without the blanks it begins with. -/
def trimStart (t : Text) : Text :=
  t.dropWhile Chars.isBlank

/-- A text without the blanks it ends with. -/
def trimEnd (t : Text) : Text :=
  (t.reverse.dropWhile Chars.isBlank).reverse

/-- A text without the blanks at its two ends. -/
def trim (t : Text) : Text :=
  trimEnd (trimStart t)

theorem length_trimStart_le (t : Text) : t.trimStart.length ≤ t.length :=
  (List.dropWhile_suffix _).length_le

theorem length_trimEnd_le (t : Text) : t.trimEnd.length ≤ t.length := by
  have hsuffix : t.reverse.dropWhile Chars.isBlank <:+ t.reverse := List.dropWhile_suffix _
  simpa [trimEnd] using hsuffix.length_le

theorem length_trim_le (t : Text) : t.trim.length ≤ t.length :=
  Nat.le_trans (length_trimEnd_le _) (length_trimStart_le t)

/-- Whether a text holds nothing but blanks. -/
def isBlank (t : Text) : Bool :=
  t.all Chars.isBlank

end Automation.Text
