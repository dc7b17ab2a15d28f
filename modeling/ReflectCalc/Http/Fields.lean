import ReflectCalc.Text.Blank

/-!
# Named fields

Headers and parameters are texts under names. `Fields` holds one value for each name; a later one
takes the place of an earlier one.

* `Fields.insert` and `Fields.ofList` build them, `Fields.get?` looks up an exact name;
* `Fields.header?` looks up a header, whose name may be in another case;
* `Fields.readLine?` reads `name: value` off a line.
-/

namespace ReflectCalc

/-- Values under names, in the order in which the names first occurred. -/
abbrev Fields := List (Text × Text)

namespace Fields

/-- Puts a value under a name, in place of an earlier one. -/
def insert (name value : Text) : Fields → Fields
  | [] => [(name, value)]
  | (n, v) :: rest => if n = name then (name, value) :: rest else (n, v) :: insert name value rest

/-- Puts values under names, from the first pair to the last. -/
def insertAll (fields : Fields) (pairs : List (Text × Text)) : Fields :=
  pairs.foldl (fun fields (name, value) => fields.insert name value) fields

/-- The fields of a list of pairs, the last value of each name. -/
def ofList (pairs : List (Text × Text)) : Fields := insertAll [] pairs

/-- The value under an exact name. -/
def get? (fields : Fields) (name : Text) : Option Text :=
  (fields.find? fun f => f.1 == name).map Prod.snd

/-- The first value under a name, whatever the case of its letters. -/
def getIgnoringCase? (fields : Fields) (name : Text) : Option Text :=
  (fields.find? fun f => f.1.sameIgnoringCase name).map Prod.snd

/-- The value of a header: the one under the exact name, or else one whose name differs in case
only. -/
def header? (fields : Fields) (name : Text) : Option Text :=
  fields.get? name <|> fields.getIgnoringCase? name

/-- The name before the first colon of a line and the value after it, both trimmed. A line without a
colon, or with nothing before it, has neither. -/
def readLine? (line : Text) : Option (Text × Text) := do
  let (name, value) ← Text.splitOnce ':' line
  if name.trim = [] then none else some (name.trim, value.trim)

end Fields

end ReflectCalc
