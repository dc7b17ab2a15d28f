import ReflectCalc.Number.Numeral
import ReflectCalc.Number.Read
import ReflectCalc.Toml.Node

/-!
# Numbers, dates and times in settings

* `readNumber?` reads an integer of 64 bits in one of four bases, or a decimal fraction; single
  underscores may stand between digits;
* `readMoment?` reads a date, a time, or both with or without an offset.
-/

namespace ReflectCalc.Toml

/-! ### Numbers -/

/-- Whether no underscore stands at an end or next to another one. -/
def wellSpaced (t : Text) : Bool := (Text.splitAll '_' t).all (· ≠ [])

/-- A run of digits and underscores, without these. -/
def readDigits? (isDigit : Char → Bool) (t : Text) : Option (Text × Text) :=
  let run := t.takeWhile fun c => isDigit c || c = '_'
  if wellSpaced run then
    some (run.filter (· ≠ '_'), t.dropWhile fun c => isDigit c || c = '_')
  else none

/-- A sign, or nothing. -/
def readSign : Text → Text × Text
  | '+' :: t => (['+'], t)
  | '-' :: t => (['-'], t)
  | t => ([], t)

/-- An integer of 64 bits. -/
def integer? (n : Int) : Option Node :=
  if -9223372036854775808 ≤ n ∧ n ≤ 9223372036854775807 then some (.int n) else none

/-- An integer in a base, after the two characters that name the base. -/
def readInBase? (base : Nat) (t : Text) : Option (Node × Text) := do
  let (digits, rest) ← readDigits? (fun c => (Numeral.digit? base c).isSome) t
  return (← integer? (← Numeral.readNat? base digits), rest)

/-- The digits before a point: a lone zero, or digits that do not start with one. -/
def readWhole? (t : Text) : Option (Text × Text) := do
  let (digits, rest) ← readDigits? Decimal.isDigit t
  match digits with
  | '0' :: _ :: _ => none
  | digits => return (digits, rest)

/-- A point with digits, or nothing. -/
def readFraction? : Text → Option (Text × Text)
  | '.' :: t => (readDigits? Decimal.isDigit t).map fun (digits, rest) => ('.' :: digits, rest)
  | t => some ([], t)

/-- An exponent, or nothing. -/
def readExponent? : Text → Option (Text × Text)
  | c :: t =>
    if c = 'e' ∨ c = 'E' then do
      let (sign, t) := readSign t
      let (digits, rest) ← readDigits? Decimal.isDigit t
      return ('e' :: sign ++ digits, rest)
    else some ([], c :: t)
  | [] => some ([], [])

/-- The double of a decimal. One that is too large is refused, unless it is negative. -/
def double? (t : Text) : Option Node := do
  let (negative, d) ← Decimal.readSigned? t
  let value := Double.ofDecimal negative d
  if value = Double.infinity then none else some (.double value)

/-- An integer or a decimal fraction in base ten. -/
def readDecimal? (t : Text) : Option (Node × Text) := do
  let (sign, t) := readSign t
  let (whole, t) ← readWhole? t
  let (fraction, t) ← readFraction? t
  let (exponent, t) ← readExponent? t
  if fraction = [] ∧ exponent = [] then
    return (← integer? (← Numeral.readInt? 10 (sign ++ whole)), t)
  else
    return (← double? (sign ++ whole ++ fraction ++ exponent), t)

/-- Infinity or NaN, with or without a sign. -/
def readSpecial? (t : Text) : Option (Node × Text) :=
  let (sign, t) := readSign t
  let negate := fun (d : Double) => if sign = ['-'] then d.neg else d
  match t with
  | 'i' :: 'n' :: 'f' :: t => some (.double (negate .infinity), t)
  | 'n' :: 'a' :: 'n' :: t => some (.double (negate .nan), t)
  | _ => none

/-- A number. -/
def readNumber? : Text → Option (Node × Text)
  | '0' :: 'x' :: t => readInBase? 16 t
  | '0' :: 'o' :: t => readInBase? 8 t
  | '0' :: 'b' :: t => readInBase? 2 t
  | t => readSpecial? t <|> readDecimal? t

/-! ### Dates and times -/

/-- A number of exactly so many digits that lies between two bounds. -/
def readField? (digits low high : Nat) (t : Text) : Option (Nat × Text) := do
  let field := t.take digits
  if field.length = digits ∧ field.all Decimal.isDigit then
    let n := Decimal.digitsValue field
    if low ≤ n ∧ n ≤ high then some (n, t.drop digits) else none
  else none

/-- What follows a character. -/
def after? (c : Char) (t : Text) : Option Text := Text.stripStart? [c] t

/-- How many days a month has. -/
def daysIn (year month : Nat) : Nat :=
  if month = 2 then
    if year % 4 = 0 ∧ (year % 100 ≠ 0 ∨ year % 400 = 0) then 29 else 28
  else if month = 4 ∨ month = 6 ∨ month = 9 ∨ month = 11 then 30
  else 31

/-- What follows a date. -/
def skipDate? (t : Text) : Option Text := do
  let (year, t) ← readField? 4 0 9999 t
  let (month, t) ← readField? 2 1 12 (← after? '-' t)
  let (_, t) ← readField? 2 1 (daysIn year month) (← after? '-' t)
  return t

/-- What follows the fraction of a second, if there is one. -/
def skipFraction (t : Text) : Text :=
  match t with
  | '.' :: c :: rest =>
    if Decimal.isDigit c then rest.dropWhile Decimal.isDigit else t
  | _ => t

/-- What follows a time. -/
def skipTime? (t : Text) : Option Text := do
  let (_, t) ← readField? 2 0 23 t
  let (_, t) ← readField? 2 0 59 (← after? ':' t)
  let (_, t) ← readField? 2 0 60 (← after? ':' t)
  return skipFraction t

/-- What follows an offset. -/
def skipOffset? : Text → Option Text
  | 'Z' :: t => some t
  | 'z' :: t => some t
  | c :: t =>
    if c = '+' ∨ c = '-' then do
      let (_, t) ← readField? 2 0 23 t
      let (_, t) ← readField? 2 0 59 (← after? ':' t)
      return t
    else none
  | [] => none

/-- What follows a time with or without an offset, behind the character that divides it from a
date. -/
def skipTimeOfDay? : Text → Option Text
  | c :: t =>
    if c = 'T' ∨ c = 't' ∨ c = ' ' then do
      let t ← skipTime? t
      return (skipOffset? t).getD t
    else none
  | [] => none

/-- What follows a date, a time, or both. -/
def skipMoment? (t : Text) : Option Text :=
  match skipDate? t with
  | some t => some ((skipTimeOfDay? t).getD t)
  | none => skipTime? t

/-- A date, a time, or both. -/
def readMoment? (t : Text) : Option (Node × Text) :=
  (skipMoment? t).map fun rest => (.moment (t.take (t.length - rest.length)), rest)

end ReflectCalc.Toml
