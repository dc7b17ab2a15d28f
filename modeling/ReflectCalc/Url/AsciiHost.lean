import ReflectCalc.Text.Percent
import ReflectCalc.Url.Basic
import ReflectCalc.Url.Label

/-!
# Hosts in ASCII

The host of a URL is a domain, an IPv4 address in any of its spellings, or an IPv6 address in
brackets. `AsciiUrl.readHost` reads one that is written in ASCII, and `AsciiUrl.Error` lists what can
be wrong with a URL.

A domain beyond ASCII is another spelling of one in ASCII, but the table that tells of which is not
here. Such a host is a good one that is not supported: it is refused with an error of its own, and
written in Punycode it is read. The labels that Punycode stands for are checked, so that the hosts
that are read are domains.
-/

namespace ReflectCalc.AsciiUrl

/-- Why a text is not read as a URL. -/
inductive Error where
  /-- There is no scheme. -/
  | relative
  /-- There is no host where one is needed. -/
  | emptyHost
  /-- The port is no number below 65536. -/
  | badPort
  /-- The host ends in a number and is no IPv4 address. -/
  | badIpv4
  /-- The host starts with a bracket and is no IPv6 address. -/
  | badIpv6
  /-- The host has a character that no domain has. -/
  | badDomain
  /-- The host of a scheme with rules of its own has a character that no host has. -/
  | badHostCharacter
  /-- The host has characters beyond ASCII, which are not supported. -/
  | beyondAscii
deriving DecidableEq, Repr

/-- The wording of an error. -/
def Error.text : Error → Text
  | relative => "relative URL without a base"
  | emptyHost => "empty host"
  | badPort => "invalid port number"
  | badIpv4 => "invalid IPv4 address"
  | badIpv6 => "invalid IPv6 address"
  | badDomain => "invalid international domain name"
  | badHostCharacter => "invalid domain character"
  | beyondAscii => "host names beyond ASCII are not supported"

/-! ### Numbers in a host -/

/-- A number in a host: hexadecimal after `0x`, octal after another `0`, else decimal. Nothing after
the `0` or the `0x` is zero. -/
def readNumber? : Text → Option Nat
  | '0' :: 'x' :: t => if t = [] then some 0 else Numeral.readNat? 16 t
  | '0' :: 'X' :: t => if t = [] then some 0 else Numeral.readNat? 16 t
  | '0' :: t => if t = [] then some 0 else Numeral.readNat? 8 t
  | t => Numeral.readNat? 10 t

/-- The parts of a host between points, without an empty last one. -/
def parts (t : Text) : List Text :=
  match Text.splitAll '.' t with
  | [part] => [part]
  | ps => if ps.getLast? = some [] then ps.dropLast else ps

/-- Whether the last part is a number, or at least made of digits. -/
def endsInNumber (t : Text) : Bool :=
  match (parts t).getLast? with
  | some last =>
    last ≠ [] && (last.all (fun c => '0' ≤ c && c ≤ '9') || (readNumber? last).isSome)
  | none => false

/-- The number of 32 bits that up to four numbers stand for: each but the last is one byte, and the
last fills the bytes that are left. -/
def combine? (numbers : List Nat) : Option Nat :=
  match numbers.getLast? with
  | some last =>
    let front := numbers.dropLast
    let room := twoTo (8 * (4 - front.length))
    if 4 < numbers.length ∨ front.any (255 < ·) ∨ room ≤ last then none
    else some (front.foldl (fun n byte => n * 256 + byte) 0 * room + last)
  | none => none

/-- Reads an IPv4 address in any spelling. -/
def readIpv4? (t : Text) : Option Ipv4 := do
  let n ← combine? (← (parts t).mapM readNumber?)
  return Ipv4.ofNat n

/-! ### Hosts -/

/-- Whether a character may not stand in a domain. -/
def isForbidden (c : Char) : Bool :=
  c.toNat ≤ 0x20 || 0x7F ≤ c.toNat || ("%#/:<>?@[\\]^|" : Text).contains c

/-- Reads a host between brackets. -/
def readBracketed (t : Text) : Except Error Host :=
  match Text.stripEnd? ']' t with
  | some inside =>
    match Ipv6.read? inside with
    | some ip => .ok (.v6 ip)
    | none => .error .badIpv6
  | none => .error .badIpv6

/-- Whether the labels of a name can be read, and keep to the directions of writing if any of them
has characters written to the left. -/
def hasSoundLabels (name : Text) : Bool :=
  match (Text.splitAll '.' name).mapM Label.decode? with
  | some labels => !labels.any Label.turns || labels.all Label.followsDirections
  | none => false

/-- Reads a domain or an IPv4 address from the bytes of a name. Bytes beyond ASCII that are a text are
not supported, and others are in no domain. -/
def readName (bytes : Bytes) : Except Error Host :=
  let name := Text.lowerAscii (bytes.map fun b => Char.ofNat b.toNat)
  if bytes.any (0x80 ≤ ·) && (Utf8.decode? bytes).isSome then .error .beyondAscii
  else if name.any isForbidden || !hasSoundLabels name then .error .badDomain
  else if name = [] then .error .emptyHost
  else if endsInNumber name then
    match readIpv4? name with
    | some ip => .ok (.v4 ip)
    | none => .error .badIpv4
  else .ok (.domain name)

/-- Reads the host of a scheme that has the common rules. -/
def readHost : Text → Except Error Host
  | '[' :: t => readBracketed t
  | t => readName (Percent.decode (Utf8.encode t))

/-- Whether a character may not stand in the host of a scheme with rules of its own. -/
def isForbiddenOpaque (c : Char) : Bool := ("\x00\t\n\r #/:<>?@[\\]^|" : Text).contains c

/-- Checks the host of a scheme that has rules of its own. -/
def checkOpaqueHost : Text → Except Error Unit
  | '[' :: t => (readBracketed t).map fun _ => ()
  | t => if t.any isForbiddenOpaque then .error .badHostCharacter else .ok ()

/-- The host as it stands in a URL. -/
def hostText : Host → Text
  | .domain name => name
  | .v4 ip => ip.text
  | .v6 ip => '[' :: ip.hexText ++ [']']

end ReflectCalc.AsciiUrl
