import ReflectCalc.Text.Basic
import ReflectCalc.Number.Power

/-!
# Punycode

Punycode writes a text with ASCII characters only. The ASCII characters of the text come first, then
a hyphen if there are any, and then a row of numbers in base 36. Each number tells how far it is
from the last insertion of another character to the next, counted over the places of the text and,
when these are through, over the code points.

* `readDelta?` reads one number, whose digits have thresholds that follow the numbers before;
* `insertAll` carries out the insertions;
* `decode?` reads a whole text.
-/

namespace ReflectCalc.Punycode

/-- The value of a digit: a letter of either case, or a decimal digit from 26 on. -/
def digit? (c : Char) : Option Nat :=
  if 'a' ≤ c ∧ c ≤ 'z' then some (c.toNat - 'a'.toNat)
  else if 'A' ≤ c ∧ c ≤ 'Z' then some (c.toNat - 'A'.toNat)
  else if '0' ≤ c ∧ c ≤ '9' then some (c.toNat - '0'.toNat + 26)
  else none

/-- The least digit that is not the last one of its number, at a place that counts in steps of 36
from 36 on. -/
def threshold (bias place : Nat) : Nat :=
  if place ≤ bias then 1 else if bias + 26 ≤ place then 26 else place - bias

/-- The number scaled down below 456, and 36 for each step taken. -/
def scale (delta steps : Nat) : Nat × Nat :=
  if 455 < delta then scale (delta / 35) (steps + 36) else (delta, steps)
termination_by delta
decreasing_by exact Nat.div_lt_self (by omega) (by omega)

/-- The bias for the next number, from the last one and the length of the text with its insertion. A
number that starts at the front of the text weighs less. -/
def adapt (delta length : Nat) (fromFront : Bool) : Nat :=
  let halved := delta / (if fromFront then 700 else 2)
  let (delta, steps) := scale (halved + halved / length) 0
  steps + 36 * delta / (delta + 38)

/-- The value if it fits 32 bits. -/
def word? (n : Nat) : Option Nat := if n < twoTo 32 then some n else none

/-- Adds the number at the front of a text to `sum`, and returns what follows it. -/
def readDelta? (bias : Nat) : (place weight sum : Nat) → Text → Option (Nat × Text)
  | _, _, _, [] => none
  | place, weight, sum, c :: t => do
    let digit ← digit? c
    let sum ← word? (sum + (← word? (digit * weight)))
    if digit < threshold bias place then some (sum, t)
    else readDelta? bias (place + 36) (← word? (weight * (36 - threshold bias place))) sum t

theorem readDelta?_length {bias place weight sum : Nat} {t rest : Text} {n : Nat}
    (h : readDelta? bias place weight sum t = some (n, rest)) : rest.length < t.length := by
  induction t generalizing place weight sum with
  | nil => simp [readDelta?] at h
  | cons c t ih =>
    simp only [readDelta?, Option.bind_eq_bind, Option.bind_eq_some_iff] at h
    obtain ⟨digit, -, product, -, sum', -, h⟩ := h
    split at h
    · obtain ⟨-, rfl⟩ := Prod.mk.inj (Option.some.inj h)
      simp
    · obtain ⟨weight', -, h⟩ := Option.bind_eq_some_iff.1 h
      exact Nat.lt_succ_of_lt (ih h)

/-- Carries out the insertions that `digits` tell. The next one is at least at `place`, with at least
the code point `code`. -/
def insertAll (code place bias : Nat) (t digits : Text) : Option Text :=
  match digits with
  | [] => some t
  | c :: cs =>
    match _h : readDelta? bias 36 1 place (c :: cs) with
    | none => none
    | some (sum, rest) =>
      let length := t.length + 1
      let code := code + sum / length
      if code.isValidChar then
        insertAll code (sum % length + 1) (adapt (sum - place) length (place == 0))
          (t.insertIdx (sum % length) (Char.ofNat code)) rest
      else none
termination_by digits.length
decreasing_by exact readDelta?_length ‹_›

/-- The text that Punycode stands for. A last hyphen at the very front is refused. -/
def decode? (t : Text) : Option Text :=
  match Text.splitLast '-' t with
  | some ([], _) => none
  | some (front, digits) => insertAll 0x80 0 72 front digits
  | none => insertAll 0x80 0 72 [] t

end ReflectCalc.Punycode
