import ReflectCalc.Json.Basic
import ReflectCalc.Number.Read

/-!
# Reading JSON

`Json.read?` reads a document with white space around it. An object keeps the last of several
members of one key, and lists and objects nest at most 127 deep.

A number without point and exponent that fits 64 bits is an exact integer. Any other is a double,
computed in a few machine operations: the digits up to 64 bits as one integer, times or divided by a
power of ten. So it can differ from the nearest double in its last place. `Json.readWith?` leaves
this computation open.
-/

namespace ReflectCalc.Json

/-- Skips the four characters that may stand between the parts of a document. -/
def skipBlank (t : Text) : Text :=
  t.dropWhile fun c => c = ' ' || c = '\n' || c = '\t' || c = '\r'

/-! ### Quoted texts -/

/-- The value of four hexadecimal digits. -/
def hexUnit? (a b c d : Char) : Option Nat := do
  let a ← Numeral.digit? 16 a
  let b ← Numeral.digit? 16 b
  let c ← Numeral.digit? 16 c
  let d ← Numeral.digit? 16 d
  return ((a * 16 + b) * 16 + c) * 16 + d

/-- The character that a backslash and this letter stand for. -/
def unescape? (letter : Char) : Option Char :=
  if letter = '"' ∨ letter = '\\' ∨ letter = '/' then some letter
  else (shortEscapes.find? fun e => e.2 = letter).map Prod.fst

/-- The character of a pair of surrogates. -/
def ofSurrogates (high low : Nat) : Char :=
  Char.ofNat (0x10000 + (high - 0xD800) * 0x400 + (low - 0xDC00))

/-- Puts a character in front of what has been read. -/
def pushChar (c : Char) : Text × Text → Text × Text := fun (t, rest) => (c :: t, rest)

/-- Reads on after an opening quote mark, up to the closing one. A high surrogate that has been read
must be followed by a low one, and neither may stand alone. -/
def readQuoted : (high : Option Nat) → Text → Option (Text × Text)
  | high, '\\' :: 'u' :: a :: b :: c :: d :: t => do
    let n ← hexUnit? a b c d
    let isLow := 0xDC00 ≤ n && n ≤ 0xDFFF
    match high with
    | some h => if isLow then (readQuoted none t).map (pushChar (ofSurrogates h n)) else none
    | none =>
      if 0xD800 ≤ n && n ≤ 0xDBFF then readQuoted (some n) t
      else if isLow then none
      else (readQuoted none t).map (pushChar (Char.ofNat n))
  | some _, _ => none
  | none, '"' :: t => some ([], t)
  | none, '\\' :: letter :: t => do
    let c ← unescape? letter
    (readQuoted none t).map (pushChar c)
  | none, c :: t => if c.toNat < 0x20 then none else (readQuoted none t).map (pushChar c)
  | none, [] => none

/-! ### Numbers -/

/-- Reads digits after the value `n` as long as the value fits 64 bits; the other digits are
returned. -/
def absorb : (n : Nat) → Text → Nat × Text
  | n, [] => (n, [])
  | n, c :: ds =>
    let m := 10 * n + (c.toNat - '0'.toNat)
    if m < twoTo 64 then absorb m ds else (n, c :: ds)

/-- A power of ten of the machine. -/
def power (e : Nat) : Float := (Double.ofInt (tenTo e)).toFloat

/-- A number times a power of ten, unless it is too large. -/
def scaled? (f : Float) (e : Int) : Option Float :=
  if f == 0.0 then some f
  else if 308 < e then none
  else if 0 ≤ e then
    let product := f * power e.toNat
    if product.isInf then none else some product
  else if -308 ≤ e then some (f / power (-e).toNat)
  else if -616 ≤ e then some (f / power 308 / power (-e - 308).toNat)
  else some 0.0

/-- The parts of a number: its sign, its digits, and its exponent. -/
structure NumberParts where
  negative : Bool
  whole : Text
  fraction : Text
  exponent : Int
  /-- Whether there is neither a point nor an exponent. -/
  plain : Bool

namespace NumberParts

/-- The digits before the point: a lone zero, or digits that do not start with one. -/
def readWhole? (t : Text) : Option (Text × Text) :=
  match t.takeWhile Decimal.isDigit, t.dropWhile Decimal.isDigit with
  | [], _ => none
  | '0' :: _ :: _, _ => none
  | whole, rest => some (whole, rest)

/-- A point and at least one digit, or nothing. -/
def readFraction? : Text → Option (Text × Text)
  | '.' :: t =>
    match t.takeWhile Decimal.isDigit with
    | [] => none
    | digits => some (digits, t.dropWhile Decimal.isDigit)
  | t => some ([], t)

/-- A non-empty run of digits as a number, and what follows. -/
def readDigits? (t : Text) : Option (Nat × Text) :=
  match t.takeWhile Decimal.isDigit with
  | [] => none
  | digits => some (Decimal.digitsValue digits, t.dropWhile Decimal.isDigit)

/-- An exponent after its letter. -/
def readSignedDigits? : Text → Option (Int × Text)
  | '-' :: t => (readDigits? t).map fun (n, rest) => (-(n : Int), rest)
  | '+' :: t => (readDigits? t).map fun (n, rest) => ((n : Int), rest)
  | t => (readDigits? t).map fun (n, rest) => ((n : Int), rest)

/-- A letter with an exponent, or nothing. -/
def readExponent? : Text → Option (Int × Text)
  | c :: t => if c = 'e' ∨ c = 'E' then readSignedDigits? t else some (0, c :: t)
  | [] => some (0, [])

/-- An unsigned number and what follows it. -/
def readUnsigned? (negative : Bool) (t : Text) : Option (NumberParts × Text) := do
  let (whole, afterWhole) ← readWhole? t
  let (fraction, afterFraction) ← readFraction? afterWhole
  let (exponent, rest) ← readExponent? afterFraction
  return (⟨negative, whole, fraction, exponent, rest.length == afterWhole.length⟩, rest)

/-- A number and what follows it. -/
def read? : Text → Option (NumberParts × Text)
  | '-' :: t => readUnsigned? true t
  | t => readUnsigned? false t

/-- The number as a double. -/
def toDouble? (p : NumberParts) : Option Double :=
  let (n, wholeLeft) := absorb 0 p.whole
  let (n, fractionLeft) := absorb n p.fraction
  let exponent :=
    p.exponent + (wholeLeft.length : Int) - ((p.fraction.length : Int) - fractionLeft.length)
  (scaled? (Double.ofInt n).toFloat exponent).map fun f =>
    Double.ofMagnitude p.negative (Double.ofFloat f).magnitude

/-- The number as a document. A minus sign before zero needs a double. -/
def toJson? (real : NumberParts → Option Double) (p : NumberParts) : Option Json :=
  let n := Decimal.digitsValue p.whole
  if p.plain ∧ p.negative = false ∧ n < twoTo 64 then some (int n)
  else if p.plain ∧ p.negative = true ∧ 0 < n ∧ n ≤ twoTo 63 then some (int (-(n : Int)))
  else (real p).map double

end NumberParts

/-! ### Documents -/

/-- How deep lists and objects can nest. -/
def maxDepth : Nat := 127

section Documents

variable (real : NumberParts → Option Double)

mutual

/-- Reads a document and returns what follows it. The first number bounds the steps, the second one
the depth of lists and objects. -/
def readValue : Nat → Nat → Text → Option (Json × Text)
  | 0, _, _ => none
  | fuel + 1, depth, t =>
    match skipBlank t, depth with
    | 'n' :: 'u' :: 'l' :: 'l' :: t, _ => some (null, t)
    | 't' :: 'r' :: 'u' :: 'e' :: t, _ => some (bool true, t)
    | 'f' :: 'a' :: 'l' :: 's' :: 'e' :: t, _ => some (bool false, t)
    | '"' :: t, _ => (readQuoted none t).map fun (s, rest) => (text s, rest)
    | '[' :: t, depth + 1 =>
      match skipBlank t with
      | ']' :: t => some (list [], t)
      | t => (readItems fuel depth t).map fun (items, rest) => (list items, rest)
    | '\x7b' :: t, depth + 1 =>
      match skipBlank t with
      | '\x7d' :: t => some (object [], t)
      | t => (readMembers fuel depth t).map fun (members, rest) => (objectOf members, rest)
    | t, _ => do
      let (parts, rest) ← NumberParts.read? t
      let number ← parts.toJson? real
      return (number, rest)

/-- Reads the items of a list and its closing bracket. -/
def readItems : Nat → Nat → Text → Option (List Json × Text)
  | 0, _, _ => none
  | fuel + 1, depth, t => do
    let (item, rest) ← readValue fuel depth t
    match skipBlank rest with
    | ',' :: rest => (readItems fuel depth rest).map fun (items, rest) => (item :: items, rest)
    | ']' :: rest => some ([item], rest)
    | _ => none

/-- Reads the members of an object and its closing brace. -/
def readMembers : Nat → Nat → Text → Option (List (Text × Json) × Text)
  | 0, _, _ => none
  | fuel + 1, depth, t => do
    let (key, rest) ← match skipBlank t with
      | '"' :: t => readQuoted none t
      | _ => none
    let rest ← match skipBlank rest with
      | ':' :: rest => some rest
      | _ => none
    let (value, rest) ← readValue fuel depth rest
    match skipBlank rest with
    | ',' :: rest =>
      (readMembers fuel depth rest).map fun (members, rest) => ((key, value) :: members, rest)
    | '\x7d' :: rest => some ([(key, value)], rest)
    | _ => none

end

/-- The document that a text is, for a given way to take the numbers that are no exact integers. -/
def readWith? (t : Text) : Option Json := do
  let (j, rest) ← readValue real (2 * t.length + 2) maxDepth t
  if skipBlank rest = [] then some j else none

end Documents

/-- The document that a text is. -/
def read? (t : Text) : Option Json := readWith? NumberParts.toDouble? t

end ReflectCalc.Json
