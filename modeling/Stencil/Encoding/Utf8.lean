/-
This file decodes UTF-8.

The first byte of a character says how many bytes follow and between which bounds the next
one lies; the bounds of the second byte rule out spellings that are too long, halves of
pairs, and numbers beyond the last character. The bytes are read one by one with the
character that has begun. A byte that cannot go on with it ends the reading: the fault
lies at the bytes of that character that were good.
-/

import Stencil.Encoding.Fault

namespace Stencil.Encoding.Utf8

/-- The name of the encoding in faults. -/
def name : String := "utf-8"

/-- A character that has begun. -/
structure Begun where
  /-- Its first byte. -/
  first : UInt8
  /-- The number of its bytes that have been read. -/
  count : Nat
  /-- The number of bytes that are still to come. -/
  missing : Nat
  /-- The least next byte. -/
  least : Nat
  /-- The greatest next byte. -/
  greatest : Nat
  /-- The number that the bytes read so far write. -/
  value : Nat
  deriving DecidableEq, Repr

/-- What the first byte of a character of several bytes begins. -/
def begin? (first : UInt8) : Option Begun :=
  let byte := first.toNat
  let begun (missing least greatest base : Nat) : Option Begun :=
    some { first, count := 1, missing, least, greatest, value := byte - base }
  if byte < 0xC2 then none
  else if byte < 0xE0 then begun 1 0x80 0xBF 0xC0
  else if byte = 0xE0 then begun 2 0xA0 0xBF 0xE0
  else if byte = 0xED then begun 2 0x80 0x9F 0xE0
  else if byte < 0xF0 then begun 2 0x80 0xBF 0xE0
  else if byte = 0xF0 then begun 3 0x90 0xBF 0xF0
  else if byte < 0xF4 then begun 3 0x80 0xBF 0xF0
  else if byte = 0xF4 then begun 3 0x80 0x8F 0xF0
  else none

/-- The character with one more byte. -/
def Begun.extend (begun : Begun) (byte : UInt8) : Begun :=
  { begun with
    count := begun.count + 1
    missing := begun.missing - 1
    least := 0x80
    greatest := 0xBF
    value := begun.value * 64 + (byte.toNat - 0x80) }

/-- The fault of a character that has begun. -/
def Begun.fault (begun : Begun) (position : Nat) (reason : FaultReason) : Fault where
  encoding := name
  first := begun.first
  start := position - begun.count
  count := begun.count
  reason := reason

/-- Decodes bytes from a position on, with the character that has begun before it. -/
def decodeFrom (position : Nat) (begun : Option Begun) : List UInt8 → Except Fault (List Char)
  | [] =>
    match begun with
    | none => .ok []
    | some begun => .error (begun.fault position .unexpectedEnd)
  | byte :: rest =>
    match begun with
    | none =>
      if byte.toNat < 0x80 then
        (decodeFrom (position + 1) none rest).map (Char.ofNat byte.toNat :: ·)
      else
        match begin? byte with
        | none =>
          .error {
            encoding := name, first := byte, start := position, count := 1,
            reason := .invalidStart }
        | some begun => decodeFrom (position + 1) (some begun) rest
    | some begun =>
      if begun.least ≤ byte.toNat ∧ byte.toNat ≤ begun.greatest then
        let extended := begun.extend byte
        if extended.missing = 0 then
          (decodeFrom (position + 1) none rest).map (Char.ofNat extended.value :: ·)
        else decodeFrom (position + 1) (some extended) rest
      else .error (begun.fault position .invalidContinuation)

/-- The text that bytes write. -/
def decode (bytes : List UInt8) : Except Fault (List Char) := decodeFrom 0 none bytes

/-- The mark that a text may begin with. -/
def mark : List UInt8 := [0xEF, 0xBB, 0xBF]

/-- The text that bytes write, without the mark that they may begin with. Positions count from
behind the mark, and the beginning of a mark that goes no further is no text. -/
def decodeMarked (bytes : List UInt8) : Except Fault (List Char) :=
  if mark.isPrefixOf bytes then decode (bytes.drop mark.length)
  else if bytes.isPrefixOf mark then .ok []
  else decode bytes

end Stencil.Encoding.Utf8
