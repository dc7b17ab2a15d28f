import ReflectCalc.Toml.Lexeme
import ReflectCalc.Toml.Scalar

/-!
# Settings documents

A document is a sequence of lines: headers, assignments and comments. A header says which table the
assignments after it belong to.

* `readValue?` reads a value, with lists and tables in braces at most `maxDepth` deep;
* `Toml.read?` reads a document and gives the members of its outermost table.
-/

namespace ReflectCalc.Toml

/-- How deep lists and tables in braces can nest. -/
def maxDepth : Nat := 79

/-! ### Values -/

mutual

/-- Reads a value. The first number bounds the steps, the second one the depth. -/
def readValue? : Nat → Nat → Text → Option (Node × Text)
  | 0, _, _ => none
  | fuel + 1, depth, t =>
    match t, depth with
    | '"' :: t, _ => (readText? ('"' :: t)).map fun (s, rest) => (.text s, rest)
    | '\'' :: t, _ => (readText? ('\'' :: t)).map fun (s, rest) => (.text s, rest)
    | 't' :: 'r' :: 'u' :: 'e' :: t, _ => some (.bool true, t)
    | 'f' :: 'a' :: 'l' :: 's' :: 'e' :: t, _ => some (.bool false, t)
    | '[' :: t, depth + 1 =>
      (readItems? fuel depth t).map fun (items, rest) => (.list items, rest)
    | '\x7b' :: t, depth + 1 =>
      match skipBlank t with
      | '\x7d' :: rest => some (.table .inline [], rest)
      | _ => (readPairs? fuel depth [] t).map fun (members, rest) => (.table .inline members, rest)
    | t, _ => readMoment? t <|> readNumber? t

/-- Reads the items of a list up to its closing bracket. A comma may follow the last one. -/
def readItems? : Nat → Nat → Text → Option (List Node × Text)
  | 0, _, _ => none
  | fuel + 1, depth, t =>
    match skipLines t.length t with
    | ']' :: rest => some ([], rest)
    | t => do
      let (item, rest) ← readValue? fuel depth t
      match skipLines rest.length rest with
      | ',' :: rest => (readItems? fuel depth rest).map fun (items, rest) => (item :: items, rest)
      | ']' :: rest => some ([item], rest)
      | _ => none

/-- Reads the assignments of a table in braces up to its closing brace, and adds them to those
before. -/
def readPairs? : Nat → Nat → Members → Text → Option (Members × Text)
  | 0, _, _, _ => none
  | fuel + 1, depth, members, t => do
    let (keys, rest) ← readKey? t
    let (value, rest) ← readValue? fuel depth (skipBlank (← after? '=' rest))
    let members ← Node.assign keys value .inline members
    match skipBlank rest with
    | ',' :: rest => readPairs? fuel depth members rest
    | '\x7d' :: rest => some (members, rest)
    | _ => none

end

/-! ### Lines -/

/-- What has been read of a document: the outermost table, and the way to the table that
assignments belong to. -/
structure Progress where
  root : Members
  current : List Text
deriving Repr

namespace Progress

/-- Adds an assignment. -/
def assign (p : Progress) (keys : List Text) (value : Node) : Option Progress := do
  let root ← Node.update false (Node.assign keys value) p.current .header p.root
  return { p with root := root }

/-- Enters the table of a header. -/
def openTable (p : Progress) (keys : List Text) : Option Progress := do
  return ⟨← Node.openTable keys p.root, keys⟩

/-- Enters a further element of a list of tables. -/
def openElement (p : Progress) (keys : List Text) : Option Progress := do
  return ⟨← Node.openElement keys p.root, keys⟩

end Progress

/-- Reads a header after its first bracket. -/
def readHeader? (p : Progress) : Text → Option (Progress × Text)
  | '[' :: t => do
    let (keys, rest) ← readKey? t
    let rest ← Text.stripStart? "]]" rest
    return (← p.openElement keys, rest)
  | t => do
    let (keys, rest) ← readKey? t
    let rest ← after? ']' rest
    return (← p.openTable keys, rest)

/-- Reads an assignment. -/
def readAssignment? (p : Progress) (t : Text) : Option (Progress × Text) := do
  let (keys, rest) ← readKey? t
  let t := skipBlank (← after? '=' rest)
  let (value, rest) ← readValue? (2 * t.length + 2) maxDepth t
  return (← p.assign keys value, rest)

/-- Reads lines, in at most as many steps as the first number says. -/
def readLines? : Nat → Progress → Text → Option Progress
  | 0, _, _ => none
  | fuel + 1, p, t =>
    match skipBlank t with
    | [] => some p
    | '[' :: t => do
      let (p, rest) ← readHeader? p t
      readLines? fuel p (← endLine? rest)
    | c :: t =>
      if c = '#' ∨ c = '\n' ∨ c = '\x0d' then do readLines? fuel p (← endLine? (c :: t))
      else do
        let (p, rest) ← readAssignment? p (c :: t)
        readLines? fuel p (← endLine? rest)

/-- The text without a byte order mark at its front. -/
def dropMark : Text → Text
  | '\uFEFF' :: t => t
  | t => t

/-- Reads a document. -/
def read? (t : Text) : Option Members :=
  (readLines? (t.length + 1) ⟨[], []⟩ (dropMark t)).map Progress.root

end ReflectCalc.Toml
