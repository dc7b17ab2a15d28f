import ReflectCalc.Text.Blank

/-!
# Argument lists

The text between the parentheses of a command, cut at the commas outside quoted spans.

* `Arguments.Scan` is where a reader of such a text stands: in a span or not, and whether the last
  character was a backslash;
* `Arguments.cut` gives the pieces between separating commas, one more than there are such commas;
* `Arguments.split` trims the pieces and leaves out a last one that is empty.
-/

namespace ReflectCalc.Arguments

/-- Whether a character can open and close a quoted span. -/
def isQuoteMark (c : Char) : Bool := c = '"' || c = '\''

/-- Where a reader of an argument list stands. -/
structure Scan where
  /-- The mark that opened the span the reader is in. -/
  quote : Option Char
  /-- Whether the character before is a backslash, which takes its meaning from a quote mark. -/
  escaped : Bool
deriving DecidableEq, Repr

namespace Scan

/-- The reader at the beginning. -/
def start : Scan := ⟨none, false⟩

/-- Reads one character. A mark opens a span, and only the same mark closes it. -/
def step (s : Scan) (c : Char) : Scan where
  quote :=
    if isQuoteMark c ∧ s.escaped = false then
      match s.quote with
      | none => some c
      | some q => if c = q then none else some q
    else s.quote
  escaped := c = '\\'

/-- Reads a text. -/
def run (s : Scan) (t : Text) : Scan := t.foldl step s

/-- Whether a character read here separates two arguments. -/
def separates (s : Scan) (c : Char) : Bool := c = ',' && s.quote.isNone

end Scan

/-- Puts a character in front of the first piece. -/
def pushFront (c : Char) : List Text → List Text
  | [] => [[c]]
  | piece :: pieces => (c :: piece) :: pieces

/-- The pieces of a text between the characters that separate arguments, for a reader that stands
at `s`. -/
def cut : Scan → Text → List Text
  | _, [] => [[]]
  | s, c :: t => if s.separates c then [] :: cut (s.step c) t else pushFront c (cut (s.step c) t)

/-- A list without its last piece if that is empty. -/
def dropEmptyLast (pieces : List Text) : List Text :=
  if pieces.getLast? = some [] then pieces.dropLast else pieces

/-- The arguments of a list: trimmed, in order, without an empty last one. -/
def split (inside : Text) : List Text := dropEmptyLast ((cut Scan.start inside).map Text.trim)

end ReflectCalc.Arguments
