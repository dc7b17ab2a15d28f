import ReflectCalc.Number.Numeral
import ReflectCalc.Unicode.Mark
import ReflectCalc.Unicode.Unassigned

/-!
# Quoted texts

Messages for developers show a text between double quotes, in such a way that every character can be
seen: `quoted` writes a quote, a backslash and the usual control characters with a backslash, and
every other character without a shape of its own by its number.
-/

namespace ReflectCalc.Text

open Unicode

/-- The characters that leave no ink: controls, separators other than the space, format characters,
fillers and private characters. -/
def inkless : Ranges := [
  (0x00, 0x1F), (0x7F, 0xA0), (0xAD, 0xAD), (0x600, 0x605), (0x61C, 0x61C), (0x6DD, 0x6DD),
  (0x70F, 0x70F), (0x890, 0x891), (0x8E2, 0x8E2), (0x115F, 0x1160), (0x1680, 0x1680),
  (0x180E, 0x180E), (0x2000, 0x200F), (0x2028, 0x202F), (0x205F, 0x206F), (0x3000, 0x3000),
  (0x3164, 0x3164), (0xE000, 0xF8FF), (0xFEFF, 0xFEFF), (0xFFA0, 0xFFA0), (0xFFF0, 0xFFFB),
  (0x110BD, 0x110BD), (0x110CD, 0x110CD), (0x13430, 0x1343F), (0x1BCA0, 0x1BCA3),
  (0x1D173, 0x1D17A), (0xE0000, 0x10FFFF)]

/-- Whether a character has a shape of its own: it leaves ink, and it is no mark that is bound to the
character before. -/
def isVisible (c : Char) : Bool :=
  (' ' ≤ c && c ≤ '~') ||
    !(inkless.has c || nonspacingMarks.has c || boundMarks.has c || unassigned.has c)

/-- A character as it stands between quotes. -/
def quotedChar (c : Char) : Text :=
  if c = '"' then "\\\""
  else if c = '\\' then "\\\\"
  else if c = '\n' then "\\n"
  else if c = '\r' then "\\r"
  else if c = '\t' then "\\t"
  else if c = '\x00' then "\\0"
  else if isVisible c then [c]
  else "\\u\x7b" ++ Numeral.inBase 16 c.toNat ++ "\x7d"

/-- A text between quotes. -/
def quoted (t : Text) : Text := '"' :: t.flatMap quotedChar ++ ['"']

end ReflectCalc.Text
