import ReflectCalc.Json.Basic

/-!
# Indented JSON

`Json.pretty` writes a document over several lines: every item and every member on a line of its
own, two spaces further in than its list or object. What is empty stays on one line.
-/

namespace ReflectCalc.Json

/-- A line end and the white space before an item at this depth. -/
def newline (depth : Nat) : Text := '\n' :: List.replicate (2 * depth) ' '

mutual

/-- A document at a depth. -/
def prettyAt (depth : Nat) : Json → Text
  | list [] => "[]"
  | list (item :: items) =>
    '[' :: newline (depth + 1) ++ prettyItems (depth + 1) (item :: items) ++ newline depth ++ [']']
  | object [] => ['\x7b', '\x7d']
  | object (member :: members) =>
    '\x7b' :: newline (depth + 1) ++ prettyMembers (depth + 1) (member :: members) ++
      newline depth ++ ['\x7d']
  | null => toText null
  | bool b => toText (bool b)
  | int n => toText (int n)
  | double d => toText (double d)
  | text t => toText (text t)

/-- The items of a list at a depth, a line each. -/
def prettyItems (depth : Nat) : List Json → Text
  | [] => []
  | [item] => prettyAt depth item
  | item :: next :: items =>
    prettyAt depth item ++ ',' :: newline depth ++ prettyItems depth (next :: items)

/-- The members of an object at a depth, a line each. -/
def prettyMembers (depth : Nat) : List (Text × Json) → Text
  | [] => []
  | [(key, value)] => quote key ++ ": " ++ prettyAt depth value
  | (key, value) :: next :: members =>
    quote key ++ ": " ++ prettyAt depth value ++ ',' :: newline depth ++
      prettyMembers depth (next :: members)

end

/-- A document over several lines, without a line end after it. -/
def pretty (j : Json) : Text := prettyAt 0 j

end ReflectCalc.Json
