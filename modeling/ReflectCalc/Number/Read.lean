import ReflectCalc.Number.Double
import ReflectCalc.Text.Blank

/-!
# Reading doubles

A double in text is read in layers. The innermost ones read numbers of any source, the outer ones
say which of them count as doubles:

* `Decimal.read?` reads an unsigned decimal, `Decimal.readSigned?` one with at most one sign;
* `Double.readNumber?` reads a decimal or the name of a number, with at most one sign;
* `Double.looksDecimal` shuts out what is no decimal before a number is read;
* `Double.readBody?` takes one type letter off the end, and `NaN` and `Infinity` by their exact name;
* `Double.read?` is the whole form: white space at either end, then a sign of its own.
-/

namespace ReflectCalc

namespace Decimal

/-- Whether a character is an ASCII digit. -/
def isDigit (c : Char) : Bool := '0' ≤ c && c ≤ '9'

/-- The value of a run of ASCII digits. -/
def digitsValue (ds : Text) : Nat := ds.foldl (fun n c => 10 * n + (c.toNat - '0'.toNat)) 0

/-- The value of the digits of an exponent. Past 65536 no further digit is read: a number of fewer
digits than that is infinite or zero by then. -/
def exponentValue (ds : Text) : Nat :=
  ds.foldl (fun n c => if n < 65536 then 10 * n + (c.toNat - '0'.toNat) else n) 0

/-- A non-empty run of digits with at most one sign, to the end of the text. -/
def readExponent? : Text → Option Int
  | '-' :: ds => if ds ≠ [] ∧ ds.all isDigit then some (-(exponentValue ds : Int)) else none
  | '+' :: ds => if ds ≠ [] ∧ ds.all isDigit then some (exponentValue ds) else none
  | ds => if ds ≠ [] ∧ ds.all isDigit then some (exponentValue ds) else none

/-- The digits after a point, and the rest. Without a point there are none. -/
def readFraction : Text → Text × Text
  | '.' :: t => (t.takeWhile isDigit, t.dropWhile isDigit)
  | t => ([], t)

/-- The decimal with these digits, of which `scale` stand behind the point, and with what follows
them: nothing, or `e` or `E` and an exponent. -/
def readTail? (digits scale : Nat) : Text → Option Decimal
  | [] => some ⟨digits, -(scale : Int)⟩
  | c :: t =>
    if c = 'e' ∨ c = 'E' then (readExponent? t).map fun e => ⟨digits, e - (scale : Int)⟩ else none

/-- An unsigned decimal: digits with at most one point, at least one digit, and possibly an
exponent. -/
def read? (t : Text) : Option Decimal :=
  let whole := t.takeWhile isDigit
  let (fraction, rest) := readFraction (t.dropWhile isDigit)
  if whole = [] ∧ fraction = [] then none
  else readTail? (digitsValue (whole ++ fraction)) fraction.length rest

/-- A decimal with at most one sign, which is returned beside it. -/
def readSigned? : Text → Option (Bool × Decimal)
  | '-' :: t => (read? t).map fun d => (true, d)
  | '+' :: t => (read? t).map fun d => (false, d)
  | t => (read? t).map fun d => (false, d)

end Decimal

namespace Double

/-- Whether a letter may follow a decimal to name its type. -/
def isTypeLetter (c : Char) : Bool := c = 'f' || c = 'F' || c = 'd' || c = 'D'

/-- The text without one type letter at its end. -/
def stripTypeLetter (t : Text) : Text :=
  match t.getLast? with
  | some c => if isTypeLetter c then t.dropLast else t
  | none => t

/-- The number of a name, whatever the case of its letters. -/
def ofName? (name : Text) : Option Double :=
  if name.sameIgnoringCase "inf" || name.sameIgnoringCase "infinity" then some infinity
  else if name.sameIgnoringCase "nan" then some nan
  else none

/-- A decimal or the name of a number, with at most one sign. -/
def readNumber? (t : Text) : Option Double :=
  match Decimal.readSigned? t with
  | some (negative, d) => some (ofDecimal negative d)
  | none =>
    match t with
    | '-' :: name => (ofName? name).map neg
    | '+' :: name => ofName? name
    | name => ofName? name

/-- Whether a character may stand in a decimal. -/
def isDecimalChar (c : Char) : Bool :=
  Decimal.isDigit c || c = '.' || c = 'e' || c = 'E' || c = '+' || c = '-'

/-- Whether there is a digit, and nothing that cannot stand in a decimal. -/
def looksDecimal (t : Text) : Bool := t.any Decimal.isDigit && t.all isDecimalChar

/-- A double after its outer sign. The decimal may carry a sign of its own. -/
def readBody? (t : Text) : Option Double :=
  if t = ("NaN" : Text) then some nan
  else if t = ("Infinity" : Text) then some infinity
  else if looksDecimal (stripTypeLetter t) then readNumber? (stripTypeLetter t)
  else none

/-- A double in text. A minus sign in front negates what follows, a plus sign changes nothing. -/
def read? (t : Text) : Option Double :=
  match t.trim with
  | '-' :: t => (readBody? t).map neg
  | '+' :: t => readBody? t
  | t => readBody? t

end Double

end ReflectCalc
