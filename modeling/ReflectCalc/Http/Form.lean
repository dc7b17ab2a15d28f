import ReflectCalc.Http.Fields
import ReflectCalc.Text.Percent

/-!
# Form encoding

The encoding of texts in a query: letters, digits and `*-._` stand for themselves, a space becomes
`+`, and every other byte of the UTF-8 encoding becomes `%` with two hexadecimal digits.

* `Form.encode` writes a text, `Form.decode` reads one and never fails;
* `Form.pairs` are the names and values of a query, `Form.fields` the last value of each name.
-/

namespace ReflectCalc.Form

/-! ### One text -/

/-- Whether a byte stands for itself. -/
def isPlain (b : UInt8) : Bool :=
  let c := Char.ofNat b.toNat
  c.isAlphanum || c = '*' || c = '-' || c = '.' || c = '_'

/-- A byte as it is written. -/
def encodeByte (b : UInt8) : Text :=
  if isPlain b then [Char.ofNat b.toNat]
  else if b = 0x20 then ['+']
  else Percent.escape b

/-- A text as it is written. -/
def encode (t : Text) : Text := (Utf8.encode t).flatMap encodeByte

/-- Reads a text. What its bytes are not in UTF-8 becomes replacement characters. -/
def decode (t : Text) : Text :=
  Utf8.decodeLossy (Percent.decode (Utf8.encode (t.replaceChar '+' ' ')))

/-! ### A query -/

/-- The name and the value of one piece of a query. Without `=` the value is empty. -/
def readPair (piece : Text) : Text × Text :=
  match Text.splitOnce '=' piece with
  | some (name, value) => (decode name, decode value)
  | none => (decode piece, [])

/-- The names and values of a query, whose pieces stand between `&`. Empty pieces have none. -/
def pairs (query : Text) : List (Text × Text) :=
  ((Text.splitAll '&' query).filter (· ≠ [])).map readPair

/-- The values of a query by name. -/
def fields (query : Text) : Fields := Fields.ofList (pairs query)

/-- A pair as it is written. -/
def pairText (pair : Text × Text) : Text := encode pair.1 ++ '=' :: encode pair.2

/-- Pairs as they are written. -/
def text (pairs : List (Text × Text)) : Text := Text.join "&" (pairs.map pairText)

end ReflectCalc.Form
