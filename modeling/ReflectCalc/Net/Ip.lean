import ReflectCalc.Number.Numeral

/-!
# Network addresses

IPv4 and IPv6 addresses as text, and socket addresses, which add a port.

* `Ipv4.read?` reads four decimal numbers without leading zeros;
* `Ipv6.read?` reads eight hexadecimal groups, of which `::` can leave out a run of zeros and a
  dotted IPv4 address can be the last two;
* `Ipv6.text` shortens the first longest run of at least two zero groups;
* `SocketAddress.read?` reads `address:port`, with an IPv6 address in brackets.
-/

namespace ReflectCalc

/-- An IPv4 address: four numbers below 256. -/
structure Ipv4 where
  octets : List Nat
deriving DecidableEq, Repr

/-- An IPv6 address: eight numbers below 65536. -/
structure Ipv6 where
  groups : List Nat
deriving DecidableEq, Repr

namespace Ipv4

/-- A decimal number below 256 without leading zeros. -/
def readOctet? (t : Text) : Option Nat := do
  let n ← Numeral.readNat? 10 t
  if n < 256 ∧ t = Numeral.ofNat n then some n else none

/-- Reads four numbers with points between them. -/
def read? (t : Text) : Option Ipv4 := do
  let octets ← (Text.splitAll '.' t).mapM readOctet?
  if octets.length = 4 then some ⟨octets⟩ else none

/-- The address of a number of 32 bits. -/
def ofNat (n : Nat) : Ipv4 := ⟨[n / twoTo 24 % 256, n / twoTo 16 % 256, n / twoTo 8 % 256, n % 256]⟩

/-- The text of an address. -/
def text (a : Ipv4) : Text := Text.join "." (a.octets.map Numeral.ofNat)

end Ipv4

namespace Ipv6

/-- A group of one to four hexadecimal digits. -/
def readGroup? (t : Text) : Option Nat := if t.length ≤ 4 then Numeral.readNat? 16 t else none

/-- The two groups of a dotted address. -/
def ofDotted : List Nat → List Nat
  | a :: b :: rest => (a * 256 + b) :: ofDotted rest
  | rest => rest

/-- The groups of texts, of which the last one can be a dotted address if that is allowed. -/
def readGroups? (dotted : Bool) : List Text → Option (List Nat)
  | [] => some []
  | [last] =>
    if dotted then
      (Ipv4.read? last).map (fun a => ofDotted a.octets) <|> (readGroup? last).map ([·])
    else (readGroup? last).map ([·])
  | t :: ts => do
    let n ← readGroup? t
    let ns ← readGroups? dotted ts
    return n :: ns

/-- The groups on one side of a double colon, where there may be none. -/
def readSide? (dotted : Bool) (t : Text) : Option (List Nat) :=
  if t = [] then some [] else readGroups? dotted (Text.splitAll ':' t)

/-- The parts around the first double colon. -/
def splitDoubleColon : Text → Option (Text × Text)
  | ':' :: ':' :: t => some ([], t)
  | c :: t => (splitDoubleColon t).map fun (l, r) => (c :: l, r)
  | [] => none

/-- Reads an address. A double colon stands for at least one group. -/
def read? (t : Text) : Option Ipv6 :=
  match splitDoubleColon t with
  | some (l, r) => do
    let left ← readSide? false l
    let right ← readSide? true r
    let gap := 8 - (left.length + right.length)
    if gap = 0 then none else some ⟨left ++ List.replicate gap 0 ++ right⟩
  | none => do
    let groups ← readGroups? true (Text.splitAll ':' t)
    if groups.length = 8 then some ⟨groups⟩ else none

/-- How many zeros a list of groups starts with. -/
def zeroRun (groups : List Nat) : Nat := (groups.takeWhile (· = 0)).length

/-- The place and the length of the first longest run of at least two zeros; length one if there is
none. -/
def longestRun (groups : List Nat) : Nat × Nat :=
  (List.range groups.length).foldl
    (fun best i =>
      let run := zeroRun (groups.drop i)
      if best.2 < run then (i, run) else best)
    (0, 1)

/-- Groups in hexadecimal with colons between them. -/
def groupsText (groups : List Nat) : Text := Text.join ":" (groups.map (Numeral.inBase 16))

/-- The text of an address, all groups in hexadecimal. -/
def hexText (a : Ipv6) : Text :=
  let (start, length) := longestRun a.groups
  if length < 2 then groupsText a.groups
  else groupsText (a.groups.take start) ++ "::" ++ groupsText (a.groups.drop (start + length))

/-- The text of an address; one that stands for an IPv4 address ends in dotted form. -/
def text (a : Ipv6) : Text :=
  match a.groups with
  | [0, 0, 0, 0, 0, 0xFFFF, high, low] =>
    "::ffff:" ++ Ipv4.text ⟨[high / 256, high % 256, low / 256, low % 256]⟩
  | _ => a.hexText

end Ipv6

/-- An address with a port. -/
inductive SocketAddress where
  | v4 (ip : Ipv4) (port : Nat)
  | v6 (ip : Ipv6) (scope port : Nat)
deriving DecidableEq, Repr

namespace SocketAddress

/-- A run of digits below `2 ^ bits`, with leading zeros if need be. -/
def readDigits? (bits : Nat) (t : Text) : Option Nat :=
  (Numeral.readNat? 10 t).filter (· < twoTo bits)

/-- What stands in brackets, and what follows the colon after them. -/
def splitBrackets? (t : Text) : Option (Text × Text) := do
  let t ← Text.stripStart? "[" t
  let (inside, rest) ← Text.splitOnce ']' t
  let port ← Text.stripStart? ":" rest
  return (inside, port)

/-- An IPv6 address, possibly with `%` and the number of a scope. -/
def readScoped? (t : Text) : Option (Ipv6 × Nat) :=
  match Text.splitOnce '%' t with
  | some (ip, scope) => do return (← Ipv6.read? ip, ← readDigits? 32 scope)
  | none => do return (← Ipv6.read? t, 0)

/-- Reads an IPv4 address with a port. -/
def readV4? (t : Text) : Option SocketAddress := do
  let (ip, port) ← Text.splitOnce ':' t
  return v4 (← Ipv4.read? ip) (← readDigits? 16 port)

/-- Reads an IPv6 address in brackets with a port. -/
def readV6? (t : Text) : Option SocketAddress := do
  let (inside, port) ← splitBrackets? t
  let (ip, scope) ← readScoped? inside
  return v6 ip scope (← readDigits? 16 port)

/-- Reads an address with a port. -/
def read? (t : Text) : Option SocketAddress := readV4? t <|> readV6? t

/-- The port of an address. -/
def port : SocketAddress → Nat
  | v4 _ port => port
  | v6 _ _ port => port

end SocketAddress

end ReflectCalc
