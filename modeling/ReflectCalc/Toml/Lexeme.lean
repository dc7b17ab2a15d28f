import ReflectCalc.Json.Read

/-!
# The parts of a settings document

White space, comments, line ends, quoted texts and keys. Every reader returns what follows the part
that it has read.

A quoted text is read in two steps: its extent is found first, and then `unescape?` or `plain?`
reads what stands between the marks.
-/

namespace ReflectCalc.Toml

/-! ### Between the parts -/

/-- Whether a character is white space within a line. -/
def isBlank (c : Char) : Bool := c = ' ' || c = '\t'

/-- Skips white space within a line. -/
def skipBlank (t : Text) : Text := t.dropWhile isBlank

/-- Whether a character can stand in a comment. -/
def isVisible (c : Char) : Bool := c = '\t' || (0x20 ≤ c.toNat && c.toNat ≠ 0x7F)

/-- What follows a line end. -/
def newline? : Text → Option Text
  | '\n' :: t => some t
  | '\x0d' :: '\n' :: t => some t
  | _ => none

/-- Skips a comment, which goes on to the end of the line. -/
def skipComment : Text → Text
  | '#' :: t => t.dropWhile isVisible
  | t => t

/-- What follows the rest of a line that holds nothing more than a comment. -/
def endLine? (t : Text) : Option Text :=
  match skipComment (skipBlank t) with
  | [] => some []
  | t => newline? t

/-- Skips white space, comments and line ends, in at most as many steps as the first number says. -/
def skipLines : Nat → Text → Text
  | 0, t => t
  | fuel + 1, t =>
    let t := skipComment (skipBlank t)
    match newline? t with
    | some t => skipLines fuel t
    | none => t

/-! ### Quoted texts -/

/-- The character of a code point. Surrogates are no characters. -/
def charOf? (n : Nat) : Option Char := if n.isValidChar then some (Char.ofNat n) else none

/-- Letters that stand for a character after a backslash. -/
def escapes : List (Char × Char) :=
  [('b', '\x08'), ('t', '\t'), ('n', '\n'), ('f', '\x0c'), ('r', '\x0d'), ('"', '"'),
   ('\\', '\\')]

/-- Where a reader of a quoted text stands. -/
inductive Reading where
  /-- Among characters. -/
  | plain
  /-- Behind a backslash with white space after it, where the line must end. -/
  | joining
  /-- Behind the end of such a line. White space and line ends have no meaning. -/
  | joined
deriving DecidableEq, Repr

/-- Reads the escapes of a text between quote marks. Only a text of several lines can have line
ends, and a backslash at the end of a line, which joins it to the next one. -/
def unescape? (several : Bool) : Reading → Text → Option Text
  | .joining, '\n' :: t => unescape? several .joined t
  | .joining, '\x0d' :: '\n' :: t => unescape? several .joined t
  | .joining, c :: t => if isBlank c then unescape? several .joining t else none
  | .joining, [] => none
  | .joined, '\n' :: t => unescape? several .joined t
  | .joined, '\x0d' :: '\n' :: t => unescape? several .joined t
  | .joined, ' ' :: t => unescape? several .joined t
  | .joined, '\t' :: t => unescape? several .joined t
  | _, '\\' :: 'u' :: a :: b :: c :: d :: t => do
    let x ← charOf? (← Json.hexUnit? a b c d)
    return x :: (← unescape? several .plain t)
  | _, '\\' :: 'U' :: a :: b :: c :: d :: e :: f :: g :: h :: t => do
    let x ← charOf? ((← Json.hexUnit? a b c d) * 65536 + (← Json.hexUnit? e f g h))
    return x :: (← unescape? several .plain t)
  | _, '\\' :: c :: t =>
    match escapes.lookup c with
    | some x => (unescape? several .plain t).map (x :: ·)
    | none =>
      if several ∧ (isBlank c ∨ c = '\n' ∨ c = '\x0d') then unescape? several .joining (c :: t)
      else none
  | _, '\x0d' :: '\n' :: t =>
    if several then (unescape? several .plain t).map ('\n' :: ·) else none
  | _, c :: t =>
    if isVisible c ∧ c ≠ '\\' ∨ several ∧ c = '\n' then
      (unescape? several .plain t).map (c :: ·)
    else none
  | _, [] => some []

/-- Reads a text between quote marks that has no escapes. -/
def plain? (several : Bool) : Text → Option Text
  | '\x0d' :: '\n' :: t => if several then (plain? several t).map ('\n' :: ·) else none
  | c :: t =>
    if isVisible c ∨ several ∧ c = '\n' then (plain? several t).map (c :: ·) else none
  | [] => some []

/-- What stands before the next quote mark, and what follows it. With `escaped`, a backslash takes
its meaning from the character after it. -/
def extent? (escaped : Bool) (mark : Char) : Text → Option (Text × Text)
  | [] => none
  | '\\' :: c :: t =>
    if escaped then (extent? escaped mark t).map fun (l, r) => ('\\' :: c :: l, r)
    else if c = mark then some (['\\'], t)
    else (extent? escaped mark (c :: t)).map fun (l, r) => ('\\' :: l, r)
  | c :: t =>
    if c = mark then some ([], t) else (extent? escaped mark t).map fun (l, r) => (c :: l, r)

/-- Up to two quote marks that directly follow three of them: the text ends with the last three. -/
def extraMarks (mark : Char) : Text → Text × Text
  | a :: b :: t =>
    if a = mark ∧ b = mark then ([a, b], t)
    else if a = mark then ([a], b :: t)
    else ([], a :: b :: t)
  | [a] => if a = mark then ([a], []) else ([], [a])
  | [] => ([], [])

/-- What stands before the next three quote marks, and what follows them. -/
def wideExtent? (escaped : Bool) (mark : Char) : Text → Option (Text × Text)
  | [] => none
  | '\\' :: c :: t =>
    if escaped then (wideExtent? escaped mark t).map fun (l, r) => ('\\' :: c :: l, r)
    else (wideExtent? escaped mark (c :: t)).map fun (l, r) => ('\\' :: l, r)
  | a :: t =>
    if (mark :: [mark, mark]).isPrefixOf (a :: t) then some (extraMarks mark (t.drop 2))
    else (wideExtent? escaped mark t).map fun (l, r) => (a :: l, r)

/-- A text on one line, after its opening mark. -/
def readLineText? (mark : Char) (t : Text) : Option (Text × Text) := do
  let escaped := mark = '"'
  let (inside, rest) ← extent? escaped mark t
  let value ← if escaped then unescape? false .plain inside else plain? false inside
  return (value, rest)

/-- A text over several lines, after its three opening marks. A line end behind these does not
belong to it. -/
def readWideText? (mark : Char) (t : Text) : Option (Text × Text) := do
  let escaped := mark = '"'
  let (inside, rest) ← wideExtent? escaped mark ((newline? t).getD t)
  let value ← if escaped then unescape? true .plain inside else plain? true inside
  return (value, rest)

/-- A quoted text of any form. -/
def readText? : Text → Option (Text × Text)
  | '"' :: '"' :: '"' :: t => readWideText? '"' t
  | '\'' :: '\'' :: '\'' :: t => readWideText? '\'' t
  | '"' :: t => readLineText? '"' t
  | '\'' :: t => readLineText? '\'' t
  | _ => none

/-! ### Keys -/

/-- Whether a character can stand in a key without quote marks. -/
def isKeyChar (c : Char) : Bool := c.isAlphanum || c = '-' || c = '_'

/-- A key without points. -/
def readSimpleKey? : Text → Option (Text × Text)
  | '"' :: t => readLineText? '"' t
  | '\'' :: t => readLineText? '\'' t
  | t =>
    match t.takeWhile isKeyChar with
    | [] => none
    | key => some (key, t.dropWhile isKeyChar)

/-- The parts of a key between points, with white space around each, in at most as many steps as the
first number says. -/
def readKeys? : Nat → Text → Option (List Text × Text)
  | 0, _ => none
  | fuel + 1, t => do
    let (key, rest) ← readSimpleKey? (skipBlank t)
    match skipBlank rest with
    | '.' :: rest => do
      let (keys, rest) ← readKeys? fuel rest
      return (key :: keys, rest)
    | rest => return ([key], rest)

/-- How many parts a key can have. -/
def maxKeys : Nat := 79

/-- A key. -/
def readKey? (t : Text) : Option (List Text × Text) := readKeys? maxKeys t

end ReflectCalc.Toml
