import ReflectCalc.Text.Basic
import ReflectCalc.Unicode.Ranges

/-!
# White space

The Unicode property White_Space: 25 code points in 10 closed ranges. Trimming removes these
characters and no others, so a zero-width space or a byte order mark stays.
-/

namespace ReflectCalc.Text

/-- The closed ranges of code points with the property White_Space, in ascending order. -/
def blankRanges : Unicode.Ranges :=
  [(0x09, 0x0D), (0x20, 0x20), (0x85, 0x85), (0xA0, 0xA0), (0x1680, 0x1680), (0x2000, 0x200A),
   (0x2028, 0x2029), (0x202F, 0x202F), (0x205F, 0x205F), (0x3000, 0x3000)]

/-- Whether a character is white space. -/
def isBlank (c : Char) : Bool := blankRanges.has c

/-- The text without the white space at its front. -/
def trimStart (t : Text) : Text := t.dropWhile isBlank

/-- The text without the white space at its back. -/
def trimEnd (t : Text) : Text := (t.reverse.dropWhile isBlank).reverse

/-- The text without the white space at either end. -/
def trim (t : Text) : Text := trimEnd (trimStart t)

/-- A text is trimmed when neither of its ends is white space. -/
def Trimmed (t : Text) : Prop :=
  (∀ c ∈ t.head?, isBlank c = false) ∧ (∀ c ∈ t.getLast?, isBlank c = false)

end ReflectCalc.Text
