import ReflectCalc.Number.Numeral
import ReflectCalc.Text.Utf8

/-!
# Percent escapes

A byte written as `%` and two hexadecimal digits. `Percent.escape` writes one in upper case, and
`Percent.decode` reads those that it finds among other bytes.
-/

namespace ReflectCalc.Percent

/-- A hexadecimal digit in upper case. -/
def hexDigit (n : Nat) : Char := (Nat.digitChar n).toUpper

/-- A byte as an escape. -/
def escape (b : UInt8) : Text := ['%', hexDigit (b.toNat / 16), hexDigit (b.toNat % 16)]

/-- The value of a byte that is a hexadecimal digit. -/
def hexValue? (b : UInt8) : Option Nat := Numeral.digit? 16 (Char.ofNat b.toNat)

/-- The byte that two hexadecimal digits name. -/
def escaped? (high low : UInt8) : Option UInt8 := do
  let h ← hexValue? high
  let l ← hexValue? low
  return UInt8.ofNat (h * 16 + l)

/-- Reads the escapes. A percent sign without two digits after it stands for itself. -/
def decode : Bytes → Bytes
  | 0x25 :: high :: low :: bs =>
    match escaped? high low with
    | some b => b :: decode bs
    | none => 0x25 :: decode (high :: low :: bs)
  | b :: bs => b :: decode bs
  | [] => []

end ReflectCalc.Percent
