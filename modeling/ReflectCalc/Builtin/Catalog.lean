import ReflectCalc.Builtin.Integer
import ReflectCalc.Builtin.Real
import ReflectCalc.Catalog.Basic

/-!
# The built-in catalog

The declarations of the six built-in types, in the order in which their members are listed. A method
without a body needs an object and can only be listed. What the clock and the source of random
numbers give is read beforehand and handed in as `Readings`, so every body is a function of its
arguments.
-/

namespace ReflectCalc.Builtin

/-- What the clock and the source of random numbers say at one moment. -/
structure Readings where
  /-- A random number from zero to below one. -/
  random : Double
  /-- Milliseconds since the epoch. -/
  millis : Int64
  /-- Nanoseconds since the program started. -/
  nanos : Int64

/-- A method that needs no object. -/
def static (returns : TypeRef) (name : Text) (params : List TypeRef)
    (body : List Argument → Except Failure Value) : Method where
  name := name
  returns := returns
  params := params
  body := .static fun args => Outcome.ofExcept (body args)

/-- A method that needs an object. -/
def onInstance (returns : TypeRef) (name : Text) (params : List TypeRef) : Method where
  name := name
  returns := returns
  params := params
  body := .onInstance

/-- The type of integers as objects. -/
def integerBox : TypeRef := .named "java.lang.Integer"

/-- The type of doubles as objects. -/
def doubleBox : TypeRef := .named "java.lang.Double"

/-- The type of truth values as objects. -/
def booleanBox : TypeRef := .named "java.lang.Boolean"

/-! ### Methods by the shape of their parameters -/

/-- A method of one integer. -/
def ofInt (returns : TypeRef) (name : Text) (f : Int32 → Value) : Method :=
  static returns name [.int] fun args => do return f (← Argument.intAt args 0)

/-- A method of one integer that can raise a fault. -/
def ofInt? (returns : TypeRef) (name : Text) (f : Int32 → Except Failure Int32) : Method :=
  static returns name [.int] fun args => do return .int (← f (← Argument.intAt args 0))

/-- A method of two integers. -/
def ofInts (returns : TypeRef) (name : Text) (f : Int32 → Int32 → Value) : Method :=
  static returns name [.int, .int] fun args => do
    let x ← Argument.intAt args 0
    let y ← Argument.intAt args 1
    return f x y

/-- A method of two integers that can raise a fault. -/
def ofInts? (returns : TypeRef) (name : Text) (f : Int32 → Int32 → Except Failure Int32) :
    Method :=
  static returns name [.int, .int] fun args => do
    let x ← Argument.intAt args 0
    let y ← Argument.intAt args 1
    return .int (← f x y)

/-- A method of one double. -/
def ofDouble (returns : TypeRef) (name : Text) (f : Double → Value) : Method :=
  static returns name [.double] fun args => do return f (← Argument.doubleAt args 0)

/-- A method of two doubles. -/
def ofDoubles (returns : TypeRef) (name : Text) (f : Double → Double → Value) : Method :=
  static returns name [.double, .double] fun args => do
    let a ← Argument.doubleAt args 0
    let b ← Argument.doubleAt args 1
    return f a b

/-- A method of one text. -/
def ofText (returns : TypeRef) (name : Text) (f : Text → Value) : Method :=
  static returns name [.string] fun args => do return f (← Argument.textAt args 0)

/-- A method of one text that can raise a fault. -/
def ofText? (returns : TypeRef) (name : Text) (f : Text → Except Failure Value) : Method :=
  static returns name [.string] fun args => do f (← Argument.textAt args 0)

/-! ### The types -/

/-- Mathematical functions. -/
def math (r : Readings) : TypeDecl where
  name := "java.lang.Math"
  fields := [⟨.double, "E"⟩, ⟨.double, "PI"⟩]
  methods := [
    ofInt .int "abs" fun x => .int (absolute x),
    ofDouble .double "abs" fun d => .double d.abs,
    ofInts .int "max" fun x y => .int (greater x y),
    ofDoubles .double "max" fun a b => .double (realMax a b),
    ofInts .int "min" fun x y => .int (lesser x y),
    ofDoubles .double "min" fun a b => .double (realMin a b),
    ofDoubles .double "pow" fun a b => .double (realMap₂ Float.pow a b),
    ofDouble .double "sqrt" fun d => .double (realMap Float.sqrt d),
    ofDouble .double "cbrt" fun d => .double (cubeRoot d),
    ofDoubles .double "hypot" fun a b => .double (hypotenuse a b),
    ofDouble .double "floor" fun d => .double (realMap Float.floor d),
    ofDouble .double "ceil" fun d => .double (realMap Float.ceil d),
    ofDouble .long "round" fun d => .long (realRound d),
    ofDouble .double "signum" fun d => .double (realSign d),
    ofDouble .double "sin" fun d => .double (realMap Float.sin d),
    ofDouble .double "cos" fun d => .double (realMap Float.cos d),
    ofDouble .double "tan" fun d => .double (realMap Float.tan d),
    ofDouble .double "exp" fun d => .double (realMap Float.exp d),
    ofDouble .double "log" fun d => .double (realMap Float.log d),
    ofDouble .double "log10" fun d => .double (realMap Float.log10 d),
    ofDouble .double "toRadians" fun d => .double (toRadians d),
    ofDouble .double "toDegrees" fun d => .double (toDegrees d),
    static .double "random" [] fun _ => .ok (.double r.random),
    ofInts? .int "floorDiv" floorDiv,
    ofInts? .int "floorMod" floorMod,
    ofInts? .int "addExact" addExact,
    ofInts? .int "subtractExact" subtractExact,
    ofInts? .int "multiplyExact" multiplyExact,
    ofInt? .int "negateExact" negateExact]

/-- Integers. -/
def integer : TypeDecl where
  name := "java.lang.Integer"
  fields := [⟨.int, "MIN_VALUE"⟩, ⟨.int, "MAX_VALUE"⟩, ⟨.int, "SIZE"⟩, ⟨.int, "BYTES"⟩,
    ⟨.int, "value"⟩]
  methods := [
    ofText? .int "parseInt" fun t => do return .int (← parseInt t 10),
    static .int "parseInt" [.string, .int] fun args => do
      let t ← Argument.textAt args 0
      let radix ← Argument.intAt args 1
      return .int (← parseInt t radix),
    ofInt integerBox "valueOf" fun x => .int x,
    ofText? integerBox "valueOf" fun t => do return .int (← parseInt t 10),
    ofInt .string "toString" fun x => .text (Numeral.ofInt x.toInt),
    ofInt .string "toBinaryString" fun x => .text (Numeral.inBase 2 (unsigned x)),
    ofInt .string "toHexString" fun x => .text (Numeral.inBase 16 (unsigned x)),
    ofInt .string "toOctalString" fun x => .text (Numeral.inBase 8 (unsigned x)),
    ofInt .int "bitCount" fun x => .int (bitCount x),
    ofInt .int "reverse" fun x => .int (reverseBits x),
    ofInt .int "signum" fun x => .int (sign x),
    ofInts .int "compare" fun x y => .int (orderingSign (compare x.toInt y.toInt)),
    ofInts .int "sum" fun x y => .int (x + y),
    ofInts .int "max" fun x y => .int (greater x y),
    ofInts .int "min" fun x y => .int (lesser x y),
    onInstance .int "intValue" [],
    onInstance .double "doubleValue" [],
    onInstance .string "toString" [],
    onInstance .int "hashCode" []]

/-- Doubles. -/
def real : TypeDecl where
  name := "java.lang.Double"
  fields := [⟨.double, "MAX_VALUE"⟩, ⟨.double, "MIN_VALUE"⟩, ⟨.double, "NaN"⟩,
    ⟨.double, "POSITIVE_INFINITY"⟩, ⟨.double, "NEGATIVE_INFINITY"⟩, ⟨.double, "value"⟩]
  methods := [
    ofText? .double "parseDouble" fun t => do return .double (← parseDouble t),
    ofDouble doubleBox "valueOf" fun d => .double d,
    ofText? doubleBox "valueOf" fun t => do return .double (← parseDouble t),
    ofDouble .string "toString" fun d => .text d.toText,
    ofDouble .boolean "isNaN" fun d => .bool d.isNaN,
    ofDouble .boolean "isInfinite" fun d => .bool d.isInfinite,
    ofDouble .boolean "isFinite" fun d => .bool d.isFinite,
    ofDoubles .int "compare" fun a b => .int (orderingSign (Double.compare a b)),
    ofDoubles .double "sum" fun a b => .double (realMap₂ (· + ·) a b),
    ofDoubles .double "max" fun a b => .double (realMax a b),
    ofDoubles .double "min" fun a b => .double (realMin a b),
    onInstance .double "doubleValue" [],
    onInstance .boolean "isNaN" [],
    onInstance .string "toString" []]

/-- Whether a text says true, in any case of its letters. -/
def saysTrue (t : Text) : Bool := t.sameIgnoringCase "true"

/-- Truth values. -/
def boolean : TypeDecl where
  name := "java.lang.Boolean"
  fields := [⟨booleanBox, "TRUE"⟩, ⟨booleanBox, "FALSE"⟩, ⟨.boolean, "value"⟩]
  methods := [
    ofText .boolean "parseBoolean" fun t => .bool (saysTrue t),
    ofText booleanBox "valueOf" fun t => .bool (saysTrue t),
    onInstance .boolean "booleanValue" []]

/-- Texts. -/
def string : TypeDecl where
  name := "java.lang.String"
  fields := [⟨.named "byte[]", "value"⟩, ⟨.int, "hash"⟩,
    ⟨.named "java.util.Comparator", "CASE_INSENSITIVE_ORDER"⟩]
  methods := [
    ofInt .string "valueOf" fun x => .text (Numeral.ofInt x.toInt),
    ofDouble .string "valueOf" fun d => .text d.toText,
    onInstance .int "length" [],
    onInstance .boolean "isEmpty" [],
    onInstance .string "trim" [],
    onInstance .string "toUpperCase" [],
    onInstance .string "toLowerCase" [],
    onInstance .int "indexOf" [.string],
    onInstance .string "concat" [.string]]

/-- The properties of the system that can be asked for. -/
def systemProperties : List (Text × Text) :=
  [("os.name", "linux"), ("os.arch", "x86_64"), ("line.separator", "\n"), ("file.separator", "/"),
   ("path.separator", ":")]

/-- The value of a system property, null for any other key. -/
def systemProperty (key : Text) : Value :=
  match systemProperties.lookup key with
  | some value => .text value
  | none => .null

/-- The clock and the properties of the system. -/
def system (r : Readings) : TypeDecl where
  name := "java.lang.System"
  fields := [⟨.named "java.io.InputStream", "in"⟩, ⟨.named "java.io.PrintStream", "out"⟩,
    ⟨.named "java.io.PrintStream", "err"⟩]
  methods := [
    static .long "currentTimeMillis" [] fun _ => .ok (.long r.millis),
    static .long "nanoTime" [] fun _ => .ok (.long r.nanos),
    static .string "lineSeparator" [] fun _ => .ok (.text "\n"),
    ofText .string "getProperty" systemProperty]

/-- The catalog of the built-in types. -/
def catalog (r : Readings) : Catalog :=
  Catalog.ofList [math r, integer, real, boolean, string, system r]

end ReflectCalc.Builtin
