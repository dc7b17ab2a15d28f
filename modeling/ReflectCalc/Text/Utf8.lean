import ReflectCalc.Number.Numeral

/-!
# UTF-8

`Utf8.encode` writes a text as bytes. Reading goes byte by byte: `Utf8.scan` carries the sequence
that has been begun and emits one item per character, or `none` for each longest run of bytes that
starts a sequence and cannot be finished. From that one scan come both readers:

* `Utf8.decode?` refuses the bytes if any item is missing;
* `Utf8.decodeLossy` puts the replacement character U+FFFD in place of each missing item.

`Utf8.flaw` says where bytes that are refused stop being well formed.
-/

namespace ReflectCalc

/-- A sequence of bytes. -/
abbrev Bytes := List UInt8

namespace Utf8

/-- The encoding of one character: one to four bytes. -/
def encodeChar (c : Char) : Bytes :=
  let n := c.toNat
  if n < 0x80 then [UInt8.ofNat n]
  else if n < 0x800 then [UInt8.ofNat (0xC0 + n / 64), UInt8.ofNat (0x80 + n % 64)]
  else if n < 0x10000 then
    [UInt8.ofNat (0xE0 + n / 4096), UInt8.ofNat (0x80 + n / 64 % 64), UInt8.ofNat (0x80 + n % 64)]
  else
    [UInt8.ofNat (0xF0 + n / 262144), UInt8.ofNat (0x80 + n / 4096 % 64),
     UInt8.ofNat (0x80 + n / 64 % 64), UInt8.ofNat (0x80 + n % 64)]

/-- The encoding of a text. -/
def encode (t : Text) : Bytes := t.flatMap encodeChar

/-- A sequence that has been begun: how many bytes it still needs, the bounds on the next one, and
the bits read so far. -/
structure Begun where
  /-- The number of bytes still needed, at least one. -/
  owed : Nat
  /-- The least value the next byte may have. -/
  low : Nat
  /-- The greatest value the next byte may have. -/
  high : Nat
  /-- The bits of the character read so far. -/
  bits : Nat
deriving DecidableEq, Repr

/-- What the first byte of a sequence says. -/
inductive Lead where
  /-- The byte is a character of its own. -/
  | char (c : Char)
  /-- The byte begins a longer sequence. -/
  | begins (b : Begun)
  /-- No sequence starts with this byte. -/
  | invalid
deriving DecidableEq, Repr

/-- Reads the first byte of a sequence. The bounds on the second byte shut out overlong forms,
surrogates and values above U+10FFFF. -/
def lead (b : Nat) : Lead :=
  if b < 0x80 then .char (Char.ofNat b)
  else if b < 0xC2 then .invalid
  else if b < 0xE0 then .begins ⟨1, 0x80, 0xBF, b - 0xC0⟩
  else if b < 0xF0 then
    .begins ⟨2, if b = 0xE0 then 0xA0 else 0x80, if b = 0xED then 0x9F else 0xBF, b - 0xE0⟩
  else if b < 0xF5 then
    .begins ⟨3, if b = 0xF0 then 0x90 else 0x80, if b = 0xF4 then 0x8F else 0xBF, b - 0xF0⟩
  else .invalid

/-- The characters of a byte sequence, with `none` for each run that is no character. -/
def scan : Option Begun → Bytes → List (Option Char)
  | none, [] => []
  | some _, [] => [none]
  | none, b :: bs => start b.toNat bs
  | some s, b :: bs =>
    if s.low ≤ b.toNat ∧ b.toNat ≤ s.high then
      let bits := s.bits * 64 + (b.toNat - 0x80)
      if s.owed ≤ 1 then some (Char.ofNat bits) :: scan none bs
      else scan (some ⟨s.owed - 1, 0x80, 0xBF, bits⟩) bs
    else none :: start b.toNat bs
where
  /-- Goes on from a byte at which a sequence starts. -/
  start (b : Nat) (bs : Bytes) : List (Option Char) :=
    match lead b with
    | .char c => some c :: scan none bs
    | .begins s => scan (some s) bs
    | .invalid => none :: scan none bs

/-- The text that the bytes encode, if they are well formed. -/
def decode? (bs : Bytes) : Option Text := (scan none bs).mapM id

/-- The text that the bytes encode, with U+FFFD for each run that is no character. -/
def decodeLossy (bs : Bytes) : Text := (scan none bs).map (·.getD '\uFFFD')

/-! ### Where bytes are not well formed -/

/-- The place at which bytes stop being well formed. -/
structure Flaw where
  /-- The number of bytes before it. -/
  index : Nat
  /-- The number of bytes that begin a sequence and cannot be finished, unless the end of the bytes
  cuts them short. -/
  length : Option Nat
deriving DecidableEq, Repr

namespace Flaw

/-- The wording of a flaw. -/
def text (f : Flaw) : Text :=
  match f.length with
  | some n =>
    "invalid utf-8 sequence of " ++ Numeral.ofNat n ++ " bytes from index " ++
      Numeral.ofNat f.index
  | none => "incomplete utf-8 byte sequence from index " ++ Numeral.ofNat f.index

end Flaw

/-- The first flaw of bytes of which `index` have been read, and then `taken` more that have begun a
sequence. Well-formed bytes have their end for it. -/
def flawFrom (index taken : Nat) : Option Begun → Bytes → Flaw
  | _, [] => ⟨index, none⟩
  | none, b :: bs => start b.toNat bs
  | some s, b :: bs =>
    if s.low ≤ b.toNat ∧ b.toNat ≤ s.high then
      if s.owed ≤ 1 then flawFrom (index + taken + 1) 0 none bs
      else flawFrom index (taken + 1) (some ⟨s.owed - 1, 0x80, 0xBF, 0⟩) bs
    else ⟨index, some taken⟩
where
  /-- Goes on from a byte at which a sequence starts. -/
  start (b : Nat) (bs : Bytes) : Flaw :=
    match lead b with
    | .char _ => flawFrom (index + 1) 0 none bs
    | .begins s => flawFrom index 1 (some s) bs
    | .invalid => ⟨index, some 1⟩

/-- The first flaw of bytes that are not well formed. -/
def flaw (bs : Bytes) : Flaw := flawFrom 0 0 none bs

end Utf8

end ReflectCalc
