import ReflectCalc.Catalog.Fault

/-!
# Operations on doubles

The operations of the built-in types on doubles. What only moves bits is done on the bits; rounding
to an integer and cube roots are computed on naturals; the rest is the machine's arithmetic.
-/

namespace ReflectCalc.Builtin

/-- Applies the machine's function of one number. -/
def realMap (f : Float → Float) (d : Double) : Double := Double.ofFloat (f d.toFloat)

/-- Applies the machine's function of two numbers. -/
def realMap₂ (f : Float → Float → Float) (a b : Double) : Double :=
  Double.ofFloat (f a.toFloat b.toFloat)

/-- The greater of two doubles, a NaN if either is one. -/
def realMax (a b : Double) : Double :=
  if a.isNaN || b.isNaN then Double.nan else if a.orderKey < b.orderKey then b else a

/-- The lesser of two doubles, a NaN if either is one. -/
def realMin (a b : Double) : Double :=
  if a.isNaN || b.isNaN then Double.nan else if b.orderKey < a.orderKey then b else a

/-- A one with the sign of the double; a zero or a NaN stays as it is. -/
def realSign (d : Double) : Double :=
  if d.isZero || d.isNaN then d else Double.ofMagnitude d.isNegative 0x3FF0000000000000

/-- The nearest integer, a half going up, clamped to 64 signed bits. A NaN gives zero. -/
def realRound (d : Double) : Int64 :=
  if d.isNaN then 0
  else if d.isInfinite then (if d.isNegative then Int64.minValue else Int64.maxValue)
  else
    let (num, den) := d.ratio
    let value : Int := if d.isNegative then -(num : Int) else num
    let nearest := (2 * value + den).fdiv (2 * den)
    Int64.ofInt (max (-9223372036854775808) (min nearest 9223372036854775807))

/-- A cube. -/
def cube (n : Nat) : Nat := n * n * n

/-- The greatest natural whose cube is at most `n`, found bit by bit from the highest. -/
def cubeRootFloor (n : Nat) : Nat :=
  (List.range (n.log2 / 3 + 1)).foldr
    (fun i root => if cube (root + twoTo i) ≤ n then root + twoTo i else root) 0

/-- The double nearest to the cube root. The significand is scaled up by a power of two that leaves
a multiple of three in the exponent, so the whole root has some sixty bits; one more bit says
whether anything is left over, and decides no tie wrongly. -/
def cubeRoot (d : Double) : Double :=
  if d.isZero || !d.isFinite then d
  else
    let third := (d.exponent - 180).fdiv 3
    let scaled := d.significand * twoTo (d.exponent - 3 * third).toNat
    let root := cubeRootFloor scaled
    let sticky := if cube root = scaled then 0 else 1
    Double.ofRatio d.isNegative ((2 * root + sticky) * twoTo third.toNat) (2 * twoTo (-third).toNat)

/-- The length of the hypotenuse for legs of which the first is the longer and neither is extreme:
the rounded root of the sum of squares, corrected once by what its square lacks. -/
def correctedRoot (long short : Float) : Float :=
  let h := (long * long + short * short).sqrt
  let lack :=
    if h ≤ 2.0 * short then
      let delta := h - short
      long * (2.0 * delta - long) + (delta - 2.0 * (long - short)) * delta
    else
      let delta := h - long
      2.0 * delta * (long - 2.0 * short) + ((4.0 * delta - short) * short + delta * delta)
  h - lack / (2.0 * h)

/-- The length of the hypotenuse. Legs whose squares would overflow or vanish are scaled by a power
of two first, and a leg too short to matter is only added. -/
def hypotenuse (a b : Double) : Double :=
  if a.isInfinite || b.isInfinite then Double.infinity
  else if a.isNaN || b.isNaN then Double.nan
  else
    let x := a.abs.toFloat
    let y := b.abs.toFloat
    let long := if x < y then y else x
    let short := if x < y then x else y
    let scale := Float.scaleB 1.0 600
    Double.ofFloat <|
      if Float.scaleB 1.0 511 < long then
        if short ≤ Float.scaleB long (-54) then long + short
        else correctedRoot (long / scale) (short / scale) * scale
      else if short < Float.scaleB 1.0 (-459) then
        if Float.scaleB short 54 ≤ long then long + short
        else correctedRoot (long * scale) (short * scale) / scale
      else if short ≤ Float.scaleB long (-54) then long + short
      else correctedRoot long short

/-- The ratio of a half turn to its diameter's half. -/
def pi : Float := 3.141592653589793

/-- An angle in degrees, in radians. -/
def toRadians (d : Double) : Double := realMap (· * (pi / 180.0)) d

/-- An angle in radians, in degrees. -/
def toDegrees (d : Double) : Double := realMap (· * (180.0 / pi)) d

/-- Reads a double. -/
def parseDouble (t : Text) : Except Fault Double :=
  if t.trim = [] then .error .emptyNumeral
  else match Double.read? t with
    | some d => .ok d
    | none => .error (.badNumeral t)

end ReflectCalc.Builtin
