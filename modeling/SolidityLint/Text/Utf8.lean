import SolidityLint.Text.Quoted

/-!
# UTF-8

Texts are stored as bytes in UTF-8.  Reading is strict: a byte that starts no character, a
missing continuation byte, an over-long form, a surrogate and a code point beyond U+10FFFF are
refused, with the offset of the bytes at fault.
-/

namespace SolidityLint

/-- A list of bytes. -/
abbrev Bytes := List UInt8

namespace Utf8

/-- What is wrong with some bytes. -/
inductive Fault where
  | invalidStart
  | invalidContinuation
  | unexpectedEnd
  deriving DecidableEq, Repr

/-- Bytes that are not UTF-8. -/
structure DecodeError where
  /-- The offset of the first byte at fault. -/
  position : Nat
  /-- The first byte at fault. -/
  byte : UInt8
  /-- The number of bytes at fault. -/
  length : Nat
  /-- What is wrong with them. -/
  fault : Fault
  deriving DecidableEq, Repr

namespace DecodeError

/-- The message that reports bytes that are not UTF-8. -/
def message (e : DecodeError) : Text :=
  "'utf-8' codec can't decode ".toList ++
    (if e.length = 1 then
      "byte 0x".toList ++ Text.ofNatHex 2 e.byte.toNat ++ " in position ".toList ++
        Text.ofNat e.position
    else
      "bytes in position ".toList ++ Text.ofNat e.position ++ "-".toList ++
        Text.ofNat (e.position + e.length - 1)) ++
    ": ".toList ++
    match e.fault with
    | .invalidStart => "invalid start byte".toList
    | .invalidContinuation => "invalid continuation byte".toList
    | .unexpectedEnd => "unexpected end of data".toList

end DecodeError

/-! ## Writing -/

/-- The bytes of a character. -/
def encodeChar (c : Char) : Bytes :=
  let n := c.toNat
  if n < 0x80 then [n.toUInt8]
  else if n < 0x800 then [(0xC0 + n / 64).toUInt8, (0x80 + n % 64).toUInt8]
  else if n < 0x10000 then
    [(0xE0 + n / 4096).toUInt8, (0x80 + n / 64 % 64).toUInt8, (0x80 + n % 64).toUInt8]
  else
    [(0xF0 + n / 262144).toUInt8, (0x80 + n / 4096 % 64).toUInt8, (0x80 + n / 64 % 64).toUInt8,
      (0x80 + n % 64).toUInt8]

/-- The bytes of a text. -/
def encode (s : Text) : Bytes :=
  s.flatMap encodeChar

/-! ## Reading -/

/-- How the character that a byte starts goes on. -/
structure Lead where
  /-- The number of continuation bytes. -/
  continuations : Nat
  /-- The bits of the code point in the first byte. -/
  bits : Nat
  /-- The least value of the second byte. -/
  least : Nat
  /-- The greatest value of the second byte. -/
  greatest : Nat
  deriving DecidableEq, Repr

/-- How the character goes on that a byte beyond ASCII starts, if it starts one. -/
def lead? (b : Nat) : Option Lead :=
  if 0xC2 ≤ b ∧ b < 0xE0 then some ⟨1, b - 0xC0, 0x80, 0xBF⟩
  else if b = 0xE0 then some ⟨2, 0, 0xA0, 0xBF⟩
  else if b = 0xED then some ⟨2, 0xD, 0x80, 0x9F⟩
  else if 0xE0 < b ∧ b < 0xF0 then some ⟨2, b - 0xE0, 0x80, 0xBF⟩
  else if b = 0xF0 then some ⟨3, 0, 0x90, 0xBF⟩
  else if b = 0xF4 then some ⟨3, 4, 0x80, 0x8F⟩
  else if 0xF0 < b ∧ b < 0xF4 then some ⟨3, b - 0xF0, 0x80, 0xBF⟩
  else none

/-- A character read only in part: the bytes still missing, the code point so far, the bounds of
the next byte, and the first byte with its offset and the number of bytes read. -/
structure Pending where
  /-- The number of bytes still missing. -/
  missing : Nat
  /-- The bits of the code point read so far. -/
  bits : Nat
  /-- The least value of the next byte. -/
  least : Nat
  /-- The greatest value of the next byte. -/
  greatest : Nat
  /-- The first byte. -/
  first : UInt8
  /-- The number of bytes read so far. -/
  read : Nat
  deriving DecidableEq, Repr

/-- Reads bytes from offset `position` on, with or without a character read in part. -/
def decodeFrom (position : Nat) : Option Pending → Bytes → Except DecodeError Text
  | none, [] => .ok []
  | some p, [] => .error ⟨position - p.read, p.first, p.read, .unexpectedEnd⟩
  | none, b :: bs =>
      let n := b.toNat
      if n < 0x80 then (decodeFrom (position + 1) none bs).map (Char.ofNat n :: ·)
      else
        match lead? n with
        | none => .error ⟨position, b, 1, .invalidStart⟩
        | some l =>
            decodeFrom (position + 1) (some ⟨l.continuations, l.bits, l.least, l.greatest, b, 1⟩) bs
  | some p, b :: bs =>
      let n := b.toNat
      if p.least ≤ n ∧ n ≤ p.greatest then
        let bits := p.bits * 64 + (n - 0x80)
        if p.missing = 1 then (decodeFrom (position + 1) none bs).map (Char.ofNat bits :: ·)
        else
          decodeFrom (position + 1) (some ⟨p.missing - 1, bits, 0x80, 0xBF, p.first, p.read + 1⟩) bs
      else .error ⟨position - p.read, p.first, p.read, .invalidContinuation⟩

/-- The text that some bytes hold. -/
def decode (bytes : Bytes) : Except DecodeError Text :=
  decodeFrom 0 none bytes

end Utf8

end SolidityLint
