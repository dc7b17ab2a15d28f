import ReflectCalc.Number.Double
import ReflectCalc.Text.Basic

/-!
# Trees of settings

The values of a settings document and the tables that hold them. A table remembers how it came
about, since that decides what may still be added to it.

* `Node.update` goes down a path of keys from a table, makes the tables that are missing on the way,
  and changes the one at the end;
* `Node.assign` gives a key a value, `Node.openTable` and `Node.openElement` are what the two kinds
  of header do. Each refuses to define anything twice.
-/

namespace ReflectCalc.Toml

/-- How a table came about. -/
inductive Origin where
  /-- By a header of its own, or as the document itself. -/
  | header
  /-- On the way to the table of a header. -/
  | implied
  /-- On the way to a value, by a key with points. -/
  | dotted
  /-- As a value in braces. Nothing can be added to it from outside. -/
  | inline
deriving DecidableEq, Repr

/-- A value in a document. -/
inductive Node where
  | text (t : Text)
  | int (n : Int)
  | double (d : Double)
  | bool (b : Bool)
  /-- A date, a time, or both. -/
  | moment (t : Text)
  | list (items : List Node)
  | table (origin : Origin) (members : List (Text × Node))
  /-- The tables that headers in double brackets have added under one name. -/
  | tables (elements : List Node)
deriving Repr

/-- The members of a table. -/
abbrev Members := List (Text × Node)

namespace Members

/-- The value of a key. -/
def find? (m : Members) (key : Text) : Option Node := m.lookup key

/-- Exchanges the value of a key that is there. -/
def replace (key : Text) (node : Node) : Members → Members
  | [] => []
  | (k, n) :: rest => if k = key then (k, node) :: rest else (k, n) :: replace key node rest

end Members

namespace Node

/-- Whether a table that came about like this can be entered. Only the tables of headers are closed
to keys with points, and those in braces to everything. -/
def canEnter (dotted : Bool) : Origin → Bool
  | .header => !dotted
  | .inline => false
  | .implied | .dotted => true

/-- Changes the table at the end of a path. A path leads through the last element of a list of
tables, and this one is open to keys with points too. -/
def update (dotted : Bool) (f : Origin → Members → Option Members) :
    (path : List Text) → Origin → Members → Option Members
  | [], origin, m => f origin m
  | key :: path, _, m =>
    match m.find? key with
    | none => do
      let origin := if dotted then Origin.dotted else Origin.implied
      let inner ← update dotted f path origin []
      return m ++ [(key, table origin inner)]
    | some (table origin inner) =>
      if canEnter dotted origin then do
        let inner ← update dotted f path origin inner
        return m.replace key (table origin inner)
      else none
    | some (tables elements) =>
      match elements.getLast? with
      | some (table origin inner) => do
        let inner ← update dotted f path origin inner
        return m.replace key (tables (elements.dropLast ++ [table origin inner]))
      | _ => none
    | some _ => none

/-- Gives the last of the keys a value. The others lead to the table that gets it, and must have
made that table. -/
def assign (keys : List Text) (value : Node) (origin : Origin) (m : Members) : Option Members :=
  match keys.getLast? with
  | some key =>
    let path := keys.dropLast
    update true
      (fun origin m =>
        if (origin == .dotted) == path.isEmpty || (m.find? key).isSome then none
        else some (m ++ [(key, value)]))
      path origin m
  | none => none

/-- Opens the table of a header. One that only stood on the way to another header is taken over. -/
def openTable (keys : List Text) (m : Members) : Option Members :=
  match keys.getLast? with
  | some key =>
    update false
      (fun _ m =>
        match m.find? key with
        | none => some (m ++ [(key, table .header [])])
        | some (table .implied inner) => some (m.replace key (table .header inner))
        | some _ => none)
      keys.dropLast .header m
  | none => none

/-- Adds a table to a list of tables. -/
def openElement (keys : List Text) (m : Members) : Option Members :=
  match keys.getLast? with
  | some key =>
    update false
      (fun _ m =>
        match m.find? key with
        | none => some (m ++ [(key, tables [table .header []])])
        | some (tables elements) =>
          some (m.replace key (tables (elements ++ [table .header []])))
        | some _ => none)
      keys.dropLast .header m
  | none => none

end Node

end ReflectCalc.Toml
