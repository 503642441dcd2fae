/-
  UTF-8: texts as bytes.

  * `encode` writes the shortest form of every character;
  * `decode` reads well-formed bytes and nothing else.  A fault names the lead
    byte of the ill-formed sequence and the bytes of it that were still in
    order: a byte that starts no character, a byte that does not continue one,
    or an end in the middle of one;
  * `decodeMarked` drops one byte-order mark first.  Bytes that are only the
    beginning of a mark are an empty text.
-/
import SiteAudit.Text.Quoted

namespace SiteAudit.Text.Utf8

/-- The content of a file. -/
abbrev Bytes := List UInt8

/-! ## Writing -/

/-- The bytes of one character. -/
def encodeChar (c : Char) : Bytes :=
  let n := c.toNat
  let tail (k : Nat) : UInt8 := (0x80 + k % 64).toUInt8
  if n < 0x80 then [n.toUInt8]
  else if n < 0x800 then [(0xc0 + n / 64).toUInt8, tail n]
  else if n < 0x10000 then [(0xe0 + n / 4096).toUInt8, tail (n / 64), tail n]
  else [(0xf0 + n / 262144).toUInt8, tail (n / 4096), tail (n / 64), tail n]

/-- The bytes of a text. -/
def encode (s : Text) : Bytes :=
  s.flatMap encodeChar

/-! ## Reading -/

/-- Why bytes are no text. -/
inductive Cause where
  | invalidStart
  | invalidContinuation
  | unexpectedEnd
  deriving DecidableEq

/-- The ill-formed sequence: the offsets of its first byte and of the last one
    that was still in order, and the first byte. -/
structure Fault where
  first : Nat
  last : Nat
  lead : UInt8
  cause : Cause
  deriving DecidableEq

/-- The wording of a cause. -/
def Cause.message : Cause → Text
  | invalidStart => "invalid start byte".toList
  | invalidContinuation => "invalid continuation byte".toList
  | unexpectedEnd => "unexpected end of data".toList

/-- The wording of a fault. -/
def Fault.message (fault : Fault) : Text :=
  "'utf-8' codec can't decode byte".toList ++
    (if fault.first = fault.last then
      " 0x".toList ++ hexDigits fault.lead.toNat 2 ++ " in position ".toList ++ ofNat fault.first
    else
      "s in position ".toList ++ ofNat fault.first ++ ['-'] ++ ofNat fault.last) ++
    ": ".toList ++ fault.cause.message

/-- A character whose lead byte has been read. -/
structure Pending where
  /-- The offset of the lead byte. -/
  first : Nat
  /-- The lead byte. -/
  lead : UInt8
  /-- The number of bytes still to come, less one. -/
  more : Nat
  /-- The least and the greatest next byte. -/
  low : Nat
  high : Nat
  /-- The bits read so far. -/
  bits : Nat

/-- The character that a lead byte begins, if it begins one. -/
def Pending.ofLead? (offset : Nat) (byte : UInt8) : Option Pending :=
  let n := byte.toNat
  if n < 0xc2 then none
  else if n < 0xe0 then some ⟨offset, byte, 0, 0x80, 0xbf, n - 0xc0⟩
  else if n < 0xf0 then
    some ⟨offset, byte, 1, if n = 0xe0 then 0xa0 else 0x80, if n = 0xed then 0x9f else 0xbf,
      n - 0xe0⟩
  else if n < 0xf5 then
    some ⟨offset, byte, 2, if n = 0xf0 then 0x90 else 0x80, if n = 0xf4 then 0x8f else 0xbf,
      n - 0xf0⟩
  else none

/-- The fault of a pending character that the byte at `offset`, or the end of
    the bytes there, does not continue. -/
def Pending.fault (pending : Pending) (offset : Nat) (cause : Cause) : Fault :=
  ⟨pending.first, offset - 1, pending.lead, cause⟩

/-- Read the bytes from `offset` on; `read` are the characters before, the last
    one first. -/
def decodeFrom : (offset : Nat) → Option Pending → (read : Text) → Bytes → Except Fault Text
  | _, none, read, [] => .ok read.reverse
  | offset, some pending, _, [] => .error (pending.fault offset .unexpectedEnd)
  | offset, none, read, byte :: bytes =>
    if byte.toNat < 0x80 then decodeFrom (offset + 1) none (Char.ofNat byte.toNat :: read) bytes
    else match Pending.ofLead? offset byte with
      | some pending => decodeFrom (offset + 1) (some pending) read bytes
      | none => .error ⟨offset, offset, byte, .invalidStart⟩
  | offset, some pending, read, byte :: bytes =>
    if pending.low ≤ byte.toNat ∧ byte.toNat ≤ pending.high then
      let bits := pending.bits * 64 + (byte.toNat - 0x80)
      match pending.more with
      | 0 => decodeFrom (offset + 1) none (Char.ofNat bits :: read) bytes
      | more + 1 =>
        decodeFrom (offset + 1) (some { pending with more, low := 0x80, high := 0xbf, bits }) read
          bytes
    else .error (pending.fault offset .invalidContinuation)

/-- The text of bytes. -/
def decode (bytes : Bytes) : Except Fault Text :=
  decodeFrom 0 none [] bytes

/-- The byte-order mark. -/
def mark : Bytes :=
  [0xef, 0xbb, 0xbf]

/-- The text of bytes after a byte-order mark, if there is one. -/
def decodeMarked (bytes : Bytes) : Except Fault Text :=
  if bytes.length < mark.length && bytes.isPrefixOf mark then .ok []
  else if mark.isPrefixOf bytes then decode (bytes.drop mark.length)
  else decode bytes

end SiteAudit.Text.Utf8
