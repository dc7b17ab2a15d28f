import ReflectCalc.Catalog.Value

/-!
# JSON

A JSON document and its compact text.

* `Json.escape` is what a character becomes inside a quoted text, `Json.quote` a whole quoted text;
* `Json.text` writes a document without any white space, its members in the order they have;
* `Json.objectOf` builds an object from pairs: ascending keys, the last pair of each key.
-/

namespace ReflectCalc

/-- A JSON document. Numbers are exact integers or doubles. -/
inductive Json where
  | null
  | bool (b : Bool)
  | int (n : Int)
  | double (d : Double)
  | text (t : Text)
  | list (items : List Json)
  | object (members : List (Text × Json))
deriving Repr

namespace Json

/-! ### Quoted texts -/

/-- Control characters with an escape of their own, and the letter of that escape. -/
def shortEscapes : List (Char × Char) :=
  [('\x08', 'b'), ('\x09', 't'), ('\x0a', 'n'), ('\x0c', 'f'), ('\x0d', 'r')]

/-- What a character becomes inside a quoted text: the quote mark, the backslash and the control
characters below U+0020 are escaped, every other character stands for itself. -/
def escape (c : Char) : Text :=
  if c = '"' ∨ c = '\\' then ['\\', c]
  else if 0x20 ≤ c.toNat then [c]
  else match shortEscapes.lookup c with
    | some letter => ['\\', letter]
    | none => "\\u00" ++ [Nat.digitChar (c.toNat / 16), Nat.digitChar (c.toNat % 16)]

/-- A text in quote marks. -/
def quote (t : Text) : Text := '"' :: t.flatMap escape ++ ['"']

/-! ### Compact text -/

/-- The text of a truth value. -/
def boolText (b : Bool) : Text := if b then "true" else "false"

mutual

/-- A document as text, without white space. -/
def toText : Json → Text
  | null => "null"
  | bool b => boolText b
  | int n => Numeral.ofInt n
  | double d => d.toJson
  | text t => quote t
  | list items => '[' :: itemsText items ++ [']']
  | object members => '\x7b' :: membersText members ++ ['\x7d']

/-- The items of a list with commas between them. -/
def itemsText : List Json → Text
  | [] => []
  | [item] => toText item
  | item :: next :: items => toText item ++ ',' :: itemsText (next :: items)

/-- The members of an object with commas between them. -/
def membersText : List (Text × Json) → Text
  | [] => []
  | [(key, value)] => quote key ++ ':' :: toText value
  | (key, value) :: next :: members =>
    quote key ++ ':' :: toText value ++ ',' :: membersText (next :: members)

end

/-! ### Objects with ascending keys -/

/-- Puts a member at its place among members with ascending keys, instead of one of the same key. -/
def insertMember (key : Text) (value : Json) : List (Text × Json) → List (Text × Json)
  | [] => [(key, value)]
  | (k, v) :: rest =>
    if Text.precedes key k then (key, value) :: (k, v) :: rest
    else if key = k then (key, value) :: rest
    else (k, v) :: insertMember key value rest

/-- The object of a list of pairs. -/
def objectOf (pairs : List (Text × Json)) : Json :=
  object (pairs.foldl (fun members (key, value) => insertMember key value members) [])

end Json

end ReflectCalc
