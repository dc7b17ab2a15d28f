import ReflectCalc.Text.Basic

/-!
# Lines

`Lines.split` cuts a sequence after each occurrence of a line end. Nothing is lost: a line keeps its
end, and only the last one may be without. It works for characters and for bytes.

* `Text.chomp` takes the end off a line: a line feed, and a carriage return before it or alone;
* `Text.lines` are the lines of a text, where a carriage return belongs to the end only before a
  line feed.
-/

namespace ReflectCalc

/-- Cuts a sequence after each `stop`. No line is empty. -/
def Lines.split {α : Type} [DecidableEq α] (stop : α) : List α → List (List α)
  | [] => []
  | a :: t =>
    if a = stop then [a] :: split stop t
    else match split stop t with
      | [] => [[a]]
      | line :: lines => (a :: line) :: lines

namespace Text

/-- A line without its end: at most one line feed, and then at most one carriage return. -/
def chomp (line : Text) : Text :=
  let line := (stripEnd? '\n' line).getD line
  (stripEnd? '\r' line).getD line

/-- A line without its line feed, and without a carriage return before that. -/
def withoutLineFeed (line : Text) : Text :=
  match stripEnd? '\n' line with
  | some line => (stripEnd? '\r' line).getD line
  | none => line

/-- The lines of a text, without their ends. -/
def lines (t : Text) : List Text := (Lines.split '\n' t).map withoutLineFeed

end Text

end ReflectCalc
