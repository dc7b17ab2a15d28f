import ReflectCalc.Number.Numeral
import ReflectCalc.Number.Shortest

/-!
# Writing doubles

A `Layout` holds the decisions of one written form of doubles: where positional writing ends, what
the exponent looks like, and which way a tie between two shortest decimals goes. `Layout.finite`
writes a finite value by them; the texts of NaN and of the infinities belong to the two formats.

* `Layout.json` and `Double.toJson`: the numbers of answers;
* `Layout.plain` and `Double.toText`: the text of a double inside a string.
-/

namespace ReflectCalc

/-- The decisions of a written form. -/
structure Layout where
  /-- The least exponent of a leading digit that is written positionally. -/
  plainFrom : Int
  /-- The greatest exponent of a leading digit that is written positionally. -/
  plainTo : Int
  /-- Whether a lone digit before an exponent is followed by `.0`. -/
  pointZero : Bool
  /-- The letter before the exponent. -/
  mark : Char
  /-- Whether an exponent from zero up gets a plus sign. -/
  expPlus : Bool
  /-- Which of two equally near decimals is taken. -/
  tie : Tie

namespace Layout

/-- Digits with the leading one at the place `10 ^ e`, written positionally; a whole number gets
`.0`. -/
def positional (digits : Text) (e : Int) : Text :=
  if e < 0 then "0." ++ List.replicate (-e - 1).toNat '0' ++ digits
  else if digits.length ≤ e.toNat + 1 then
    digits ++ List.replicate (e.toNat + 1 - digits.length) '0' ++ ".0"
  else digits.take (e.toNat + 1) ++ '.' :: digits.drop (e.toNat + 1)

/-- Digits with the leading one at the place `10 ^ e`, written with an exponent. -/
def scientific (l : Layout) (digits : Text) (e : Int) : Text :=
  let fraction := match digits.drop 1 with
    | [] => if l.pointZero then (".0" : Text) else []
    | rest => '.' :: rest
  let sign : Text := if l.expPlus ∧ 0 ≤ e then ['+'] else []
  digits.take 1 ++ fraction ++ l.mark :: sign ++ Numeral.ofInt e

/-- The text of a positive decimal. -/
def decimal (l : Layout) (d : Decimal) : Text :=
  let e := d.exp + (d.text.length : Int) - 1
  if l.plainFrom ≤ e ∧ e ≤ l.plainTo then positional d.text e else l.scientific d.text e

/-- The text of a finite double. -/
def finite (l : Layout) (d : Double) : Text :=
  (if d.isNegative then ['-'] else []) ++
    (if d.isZero then ("0.0" : Text) else l.decimal (d.shortest l.tie))

/-- Positional from `10 ^ (-5)` to below `10 ^ 16`; otherwise a signed exponent after `e`. -/
def json : Layout where
  plainFrom := -5
  plainTo := 15
  pointZero := false
  mark := 'e'
  expPlus := true
  tie := .toEven

/-- Positional from `10 ^ (-3)` to below `10 ^ 7`; otherwise one digit, a point, at least one more
digit and an exponent after `E`. -/
def plain : Layout where
  plainFrom := -3
  plainTo := 6
  pointZero := true
  mark := 'E'
  expPlus := false
  tie := .upward

end Layout

namespace Double

/-- The JSON form of a double: `null` unless it is finite. -/
def toJson (d : Double) : Text := if d.isFinite then Layout.json.finite d else "null"

/-- The text of a double, with names for NaN and the infinities. -/
def toText (d : Double) : Text :=
  if d.isNaN then "NaN"
  else if d.isInfinite then (if d.isNegative then "-Infinity" else "Infinity")
  else Layout.plain.finite d

end Double

end ReflectCalc
