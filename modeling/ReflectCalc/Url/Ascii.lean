import ReflectCalc.Url.AsciiHost

/-!
# Reading URLs in ASCII

`AsciiUrl.parse` reads a URL the way browsers do: white space at the ends and line ends anywhere have
no meaning, backslashes are slashes, user names are skipped, and dot segments of the path are
resolved. What follows the path is ignored. Hosts beyond ASCII are not supported.

Five schemes have common rules for what follows them. A URL of another scheme is checked by the
rules of that scheme, and no more is kept of it than the scheme.

This is the reader that the programs use. What it returns has what is known of the URLs of any
reader: `exists_host_of_parse` finds the host of a URL wherever the scheme goes with a port, and the
other parts are computed from these.
-/

namespace ReflectCalc.AsciiUrl

/-! ### Schemes -/

/-- The text without control characters and spaces at its ends, and without tabs and line ends. -/
def clean (t : Text) : Text :=
  let outer := fun (c : Char) => decide (c.toNat ≤ 0x20)
  ((t.dropWhile outer).reverse.dropWhile outer).reverse.filter fun c =>
    c ≠ '\t' && c ≠ '\n' && c ≠ '\r'

/-- Whether a character can stand in a scheme. -/
def isSchemeChar (c : Char) : Bool := c.isAlphanum || c = '+' || c = '-' || c = '.'

/-- The scheme in lower case, and what follows its colon. -/
def readScheme? (t : Text) : Option (Text × Text) := do
  let (scheme, rest) ← Text.splitOnce ':' t
  if scheme.head?.any Char.isAlpha && scheme.all isSchemeChar then
    return (scheme.lowerAscii, rest)
  else none

/-- The schemes that have a host and the common rules for it, each with the port that goes with
it. -/
def hostSchemes : List (Text × Nat) :=
  [("http", 80), ("https", 443), ("ws", 80), ("wss", 443), ("ftp", 21)]

/-- The port that goes with a scheme. -/
def defaultPort? (scheme : Text) : Option Nat := hostSchemes.lookup scheme

/-! ### Host and port -/

/-- Whether a character ends the part of a URL before the path. -/
def endsAuthority (special : Bool) (c : Char) : Bool :=
  c = '/' || c = '?' || c = '#' || (special && c = '\\')

/-- The host and what follows its colon. A colon between brackets belongs to the host. -/
def splitPort : (inBrackets : Bool) → Text → Text × Option Text
  | _, [] => ([], none)
  | inBrackets, c :: t =>
    if c = ':' ∧ inBrackets = false then ([], some t)
    else
      let (host, port) := splitPort (c = '[' || (inBrackets && c ≠ ']')) t
      (c :: host, port)

/-- Reads a port: nothing, or digits, up to a backslash. -/
def readPort (t : Text) : Except Error (Option Nat) :=
  match t.takeWhile (· ≠ '\\') with
  | [] => .ok none
  | digits =>
    match Numeral.readNat? 10 digits with
    | some n => if n < 65536 then .ok (some n) else .error .badPort
    | none => .error .badPort

/-- The user name and the part after it. The last `@` divides them. -/
def splitUser (authority : Text) : Text × Text :=
  (Text.splitLast '@' authority).getD ([], authority)

/-- Whether nothing but `@` stands where a host is needed before a path. -/
def isBareAt (authority rest : Text) : Bool := authority = ['@'] && rest ≠ []

/-- Reads the host and the port of a scheme with the common rules. -/
def readAuthority (authority rest : Text) : Except Error (Host × Option Nat) := do
  if isBareAt authority rest then throw .emptyHost
  let (host, port) := splitPort false (splitUser authority).2
  if host = [] then throw .emptyHost
  return (← readHost host, ← readPort (port.getD []))

/-- Checks the host and the port of a scheme that has rules of its own. -/
def checkOpaque (authority rest : Text) : Except Error Unit := do
  if isBareAt authority rest then throw .emptyHost
  let (user, after) := splitUser authority
  let (host, port) := splitPort false after
  checkOpaqueHost host
  if host = [] ∧ port.isSome then throw .emptyHost
  let _ ← readPort (port.getD [])
  if host = [] ∧ user ≠ [] ∧ user ≠ [':'] then throw .emptyHost

/-- Whether a text is the letter of a drive. -/
def isDrive : Text → Bool
  | [letter, mark] => letter.isAlpha && (mark = ':' || mark = '|')
  | _ => false

/-- Checks the host of a file, if there is one. -/
def checkFile (t : Text) : Except Error Unit :=
  match t with
  | a :: b :: t =>
    let host := t.takeWhile fun c => !endsAuthority true c
    if (a = '/' ∨ a = '\\') ∧ (b = '/' ∨ b = '\\') ∧ host ≠ [] ∧ isDrive host = false then
      (readHost host).map fun _ => ()
    else .ok ()
  | _ => .ok ()

/-! ### Paths -/

/-- Whether a character of a path is written as escapes. -/
def isEscaped (c : Char) : Bool :=
  c.toNat ≤ 0x20 || 0x7F ≤ c.toNat || ("\"#<>?`\x7b\x7d" : Text).contains c

/-- A segment of a path as it is written. -/
def segmentText (t : Text) : Text :=
  t.flatMap fun c => if isEscaped c then (Utf8.encodeChar c).flatMap Percent.escape else [c]

/-- The segment with points for escaped points. -/
def withPoints : Text → Text
  | '%' :: '2' :: 'e' :: t => '.' :: withPoints t
  | '%' :: '2' :: 'E' :: t => '.' :: withPoints t
  | c :: t => c :: withPoints t
  | [] => []

/-- Adds a segment to those before it, the last of which comes first. One point changes nothing, and
two points take back the segment before, unless that is the letter of a drive. -/
def addSegment (before : List Text) (segment : Text) : List Text :=
  if withPoints segment = ['.', '.'] then
    match before with
    | last :: rest => if isDrive last then before else rest
    | [] => []
  else if withPoints segment = ['.'] then before
  else segment :: before

/-- The last segment of a path, where points leave it empty. -/
def lastSegment (segment : Text) : Text :=
  if withPoints segment = ['.', '.'] ∨ withPoints segment = ['.'] then [] else segment

/-- The path of segments: those before the last one, and the last one. -/
def resolve (segments : List Text) : Text :=
  let last := segments.getLast?.getD []
  let before := segments.dropLast.foldl addSegment []
  let kept := if withPoints last = ['.', '.'] then addSegment before last else before
  '/' :: (kept.reverse.flatMap fun s => s ++ ['/']) ++ lastSegment last

/-- Reads the path up to a question mark or a hash. -/
def readPath (rest : Text) : Text :=
  let t := Text.replaceChar '\\' '/' (rest.takeWhile fun c => c ≠ '?' && c ≠ '#')
  resolve ((Text.splitAll '/' ((Text.stripStart? "/" t).getD t)).map segmentText)

/-! ### The whole -/

/-- The URL with these parts. -/
def assemble (scheme : Text) (host : Host) (port : Option Nat) (path : Text) : Url where
  scheme := scheme
  host := some host
  hostText := some (hostText host)
  port := port.filter fun n => defaultPort? scheme ≠ some n
  knownPort := port <|> defaultPort? scheme
  path := path

/-- Reads what follows the colon of a scheme with the common rules. -/
def readRest (scheme rest : Text) : Except Error Url := do
  let t := rest.dropWhile fun c => c = '/' || c = '\\'
  let authority := t.takeWhile fun c => !endsAuthority true c
  let rest := t.dropWhile fun c => !endsAuthority true c
  let (host, port) ← readAuthority authority rest
  return assemble scheme host port (readPath rest)

/-- Checks what follows the colon of a scheme that has rules of its own. -/
def checkOther (rest : Text) : Except Error Unit :=
  match Text.stripStart? "//" rest with
  | some t =>
    checkOpaque (t.takeWhile fun c => !endsAuthority false c)
      (t.dropWhile fun c => !endsAuthority false c)
  | none => .ok ()

/-- Reads a URL. -/
def parse (t : Text) : Except Error Url :=
  match readScheme? (clean t) with
  | none => .error .relative
  | some (scheme, rest) =>
    if (defaultPort? scheme).isSome then readRest scheme rest
    else do
      if scheme = ("file" : Text) then checkFile rest else checkOther rest
      return { scheme := scheme }

instance : UrlReader := ⟨fun t => (parse t).mapError Error.text⟩

end ReflectCalc.AsciiUrl
