import ReflectCalc.Unicode.Composition
import ReflectCalc.Unicode.Direction
import ReflectCalc.Unicode.Joining
import ReflectCalc.Url.DomainChar
import ReflectCalc.Url.Punycode

/-!
# Labels of domains

A label is what stands between two points of a domain. A label with characters beyond ASCII is
written as `xn--` and its Punycode, and not every text can be one.

* `Label.decode?` reads a label;
* `Label.isSound` tells which texts with characters beyond ASCII are labels;
* `Label.followsDirections` is what a label has to keep to in a domain with letters written to the
  left.
-/

namespace ReflectCalc.Label

open Unicode

/-! ### Joiners -/

/-- The joiner that keeps two letters apart. -/
def nonJoiner : Char := '\u200C'

/-- The joiner that binds two letters. -/
def joiner : Char := '\u200D'

/-- Whether the next character, marks aside, joins on the side in question. -/
def joins (side : Joining) (t : Text) : Bool :=
  match t.find? fun c => joining c ≠ .transparent with
  | some c => joining c = .both || joining c = side
  | none => false

/-- Whether a joiner has a use between what comes before it, the last character first, and what
follows: after the sign that silences a vowel either has, and between letters that would join the
one that keeps them apart. -/
def isUseful (c : Char) (before after : Text) : Bool :=
  match before with
  | [] => false
  | last :: _ =>
    combiningClass last = viramaClass ||
      (c = nonJoiner && joins .following before && joins .preceding after)

/-- Whether every joiner has a use. The characters before come last one first. -/
def areUseful (before : Text) : Text → Bool
  | [] => true
  | c :: t =>
    ((c ≠ nonJoiner && c ≠ joiner) || isUseful c before t) && areUseful (c :: before) t

/-! ### Labels -/

/-- Whether a text is a label: in composed form, of allowed characters, with no mark at its front and
no joiner without use, and at most 1000 characters long. -/
def isSound (t : Text) : Bool :=
  t.all DomainChar.isAllowed && isComposed t && !t.head?.any isMark && areUseful [] t &&
    t.length ≤ 1000

/-- Reads a label in ASCII and lower case. Where it is written in Punycode there is a character
beyond ASCII. -/
def decode? (t : Text) : Option Text :=
  match Text.stripStart? "xn--" t with
  | some written =>
    if written = [] ∨ written.getLast? = some '-' ∨ 2000 < written.length then none
    else (Punycode.decode? written).filter isSound
  | none => some t

/-! ### Directions -/

/-- Whether the label has characters written to the left. -/
def turns (t : Text) : Bool :=
  t.any fun c => direction c = .rightToLeft || direction c = .arabicNumber

/-- Whether a label starts with a letter, has no letter of the other direction, and ends with a
letter or a number, marks aside. Only a label written to the left can have Arabic numbers, and then
it has no others. -/
def followsDirections : Text → Bool
  | [] => true
  | c :: t =>
    let classes := ((t.map direction).reverse.dropWhile (· = .mark))
    match direction c with
    | .leftToRight =>
      classes.all (fun d => d ≠ .rightToLeft && d ≠ .arabicNumber) &&
        classes.head?.all fun d => d = .leftToRight || d = .europeanNumber
    | .rightToLeft =>
      classes.all (fun d => d ≠ .leftToRight) &&
        (classes.head?.all fun d => d ≠ .neutral) &&
        !(classes.contains .arabicNumber && classes.contains .europeanNumber)
    | _ => false

end ReflectCalc.Label
