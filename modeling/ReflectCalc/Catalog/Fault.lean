import ReflectCalc.Catalog.Value

/-!
# Faults and outcomes

What a method's body can come to: a value, a fault that it raises, or a crash. Faults are causes;
`Fault.category` and `Fault.message` are the two parts of their text. A computation of type
`Except Failure α` can end without a value in either way, and one of type `Except Fault α` cannot
crash.
-/

namespace ReflectCalc

/-- Why a method's body gave no value. -/
inductive Fault where
  /-- The exact result is no 32-bit integer. -/
  | integerOverflow
  /-- The divisor is zero. -/
  | divisionByZero
  /-- The text is no numeral. -/
  | badNumeral (input : Text)
  /-- A numeral was expected and there is only white space. -/
  | emptyNumeral
  /-- The base of a numeral is not between 2 and 36. -/
  | radixOutOfRange (radix : Int)
  /-- The argument at this position is absent or of another kind. -/
  | mismatch (index : Nat) (expected : Kind) (found : Option Kind)
  /-- A fault of some other category. -/
  | other (category message : Text)
deriving DecidableEq, Repr

namespace Fault

/-- The category of a fault. -/
def category : Fault → Text
  | integerOverflow => "ArithmeticException"
  | divisionByZero => "ArithmeticException"
  | badNumeral _ => "NumberFormatException"
  | emptyNumeral => "NumberFormatException"
  | radixOutOfRange _ => "NumberFormatException"
  | mismatch _ _ _ => "IllegalArgumentException"
  | other category _ => category

/-- What a fault says beside its category. -/
def message : Fault → Text
  | integerOverflow => "integer overflow"
  | divisionByZero => "/ by zero"
  | badNumeral input => "For input string: \"" ++ input ++ "\""
  | emptyNumeral => "empty String"
  | radixOutOfRange radix => "radix " ++ Numeral.ofInt radix ++ " out of range"
  | mismatch index expected found =>
    "argument " ++ Numeral.ofNat index ++ ": expected " ++ expected.word ++ ", found " ++
      (match found with
        | some kind => kind.word
        | none => "nothing")
  | other _ message => message

/-- The text of a fault. -/
def text (f : Fault) : Text := f.category ++ ": " ++ f.message

end Fault

/-- Why a computation has come to no value. -/
inductive Failure where
  /-- It raised a fault. -/
  | fault (f : Fault)
  /-- It crashed, as the machine does on an operation that has no result. -/
  | crash
deriving DecidableEq, Repr

instance : MonadLift (Except Fault) (Except Failure) := ⟨fun x => x.mapError .fault⟩

/-- What running a method's body comes to. -/
inductive Outcome where
  /-- The body returned a value. -/
  | value (v : Value)
  /-- The body raised a fault. -/
  | fault (f : Fault)
  /-- The body crashed, with a text if it left one. -/
  | crash (message : Option Text)
deriving DecidableEq, Repr

namespace Outcome

/-- The outcome of a computation. -/
def ofExcept : Except Failure Value → Outcome
  | .ok v => value v
  | .error (.fault f) => fault f
  | .error .crash => crash none

end Outcome

/-! ### Arguments by position -/

namespace Argument

/-- The integer at a position. -/
def intAt (args : List Argument) (i : Nat) : Except Fault Int32 :=
  match args[i]? with
  | some (int n) => .ok n
  | found => .error (.mismatch i .int (found.map kind))

/-- The double at a position. -/
def doubleAt (args : List Argument) (i : Nat) : Except Fault Double :=
  match args[i]? with
  | some (double d) => .ok d
  | found => .error (.mismatch i .double (found.map kind))

/-- The text at a position. -/
def textAt (args : List Argument) (i : Nat) : Except Fault Text :=
  match args[i]? with
  | some (text t) => .ok t
  | found => .error (.mismatch i .text (found.map kind))

end Argument

end ReflectCalc
