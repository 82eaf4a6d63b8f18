/-!
# Reading UTF-8

A reader of bytes that stops at the first byte which no UTF-8 text can hold at that place. Between
characters it waits for a first byte; inside a character it knows the interval in which the next
byte has to lie. The interval of the second byte depends on the first, which excludes overlong
forms, surrogates and code points above the last.
-/
namespace SchemaBeans.Text

/-- Why bytes are no text. -/
inductive Utf8Cause where
  /-- A byte that starts no character. -/
  | invalidStart
  /-- A character that is not continued by the byte after it. -/
  | invalidContinuation
  /-- A character that the end of the bytes cuts off. -/
  | unexpectedEnd
deriving DecidableEq, Repr

/-- The first bytes that are no text. -/
structure Utf8Fault where
  /-- The place of the first of them, counted in bytes from zero. -/
  first : Nat
  /-- Their number. -/
  count : Nat
  /-- The value of the first of them. -/
  byte : UInt8
  /-- Why they are no text. -/
  cause : Utf8Cause
deriving DecidableEq, Repr

/-- A character of which some bytes are read. -/
structure Utf8Pending where
  /-- The place of its first byte. -/
  first : Nat
  /-- Its first byte. -/
  byte : UInt8
  /-- The bits read. -/
  bits : Nat
  /-- The number of bytes that are missing. -/
  missing : Nat
  /-- The least value of the next byte. -/
  low : UInt8
  /-- The greatest value of the next byte. -/
  high : UInt8

/-- What the first byte of a longer character tells about the bytes after it. -/
def Utf8Pending.start? (place : Nat) (byte : UInt8) : Option Utf8Pending :=
  if 0xC2 ≤ byte && byte ≤ 0xDF then some ⟨place, byte, byte.toNat - 0xC0, 1, 0x80, 0xBF⟩
  else if byte == 0xE0 then some ⟨place, byte, 0, 2, 0xA0, 0xBF⟩
  else if byte == 0xED then some ⟨place, byte, 0xD, 2, 0x80, 0x9F⟩
  else if 0xE1 ≤ byte && byte ≤ 0xEF then some ⟨place, byte, byte.toNat - 0xE0, 2, 0x80, 0xBF⟩
  else if byte == 0xF0 then some ⟨place, byte, 0, 3, 0x90, 0xBF⟩
  else if 0xF1 ≤ byte && byte ≤ 0xF3 then some ⟨place, byte, byte.toNat - 0xF0, 3, 0x80, 0xBF⟩
  else if byte == 0xF4 then some ⟨place, byte, 4, 3, 0x80, 0x8F⟩
  else none

/-- Read bytes from a place on, with the character that is open there. -/
def decodeUtf8From (place : Nat) (pending : Option Utf8Pending) :
    List UInt8 → Except Utf8Fault (List Char)
  | [] =>
    match pending with
    | none => .ok []
    | some char => .error ⟨char.first, place - char.first, char.byte, .unexpectedEnd⟩
  | byte :: rest =>
    match pending with
    | none =>
      if byte < 0x80 then
        (decodeUtf8From (place + 1) none rest).map (Char.ofNat byte.toNat :: ·)
      else
        match Utf8Pending.start? place byte with
        | none => .error ⟨place, 1, byte, .invalidStart⟩
        | some char => decodeUtf8From (place + 1) (some char) rest
    | some char =>
      if char.low ≤ byte && byte ≤ char.high then
        let bits := char.bits * 64 + (byte.toNat - 0x80)
        if char.missing ≤ 1 then
          (decodeUtf8From (place + 1) none rest).map (Char.ofNat bits :: ·)
        else
          decodeUtf8From (place + 1)
            (some { char with bits, missing := char.missing - 1, low := 0x80, high := 0xBF }) rest
      else
        .error ⟨char.first, place - char.first, char.byte, .invalidContinuation⟩

/-- The text that bytes stand for. -/
def decodeUtf8 (bytes : List UInt8) : Except Utf8Fault (List Char) :=
  decodeUtf8From 0 none bytes

end SchemaBeans.Text
