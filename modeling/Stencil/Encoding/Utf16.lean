/-
This file decodes UTF-16.

The bytes are taken two by two as units, in one of two orders. A unit is a character, or
the first or second half of a pair that is one; halves stand in pairs only. A mark at the
beginning tells the order. Without a mark the bytes are read with the lesser byte first,
and are refused if they are two or more.
-/

import Stencil.Encoding.Fault

namespace Stencil.Encoding.Utf16

/-- Which byte of a unit comes first. -/
inductive ByteOrder where
  | lesserFirst
  | greaterFirst
  deriving DecidableEq, Repr

namespace ByteOrder

/-- The name of the encoding in faults. -/
def name : ByteOrder → String
  | lesserFirst => "utf-16-le"
  | greaterFirst => "utf-16-be"

/-- The unit of two bytes. -/
def unit (order : ByteOrder) (first second : UInt8) : Nat :=
  match order with
  | lesserFirst => second.toNat * 256 + first.toNat
  | greaterFirst => first.toNat * 256 + second.toNat

end ByteOrder

/-- The first half of a pair, which waits for the second: its unit and its first byte. -/
structure Half where
  unit : Nat
  first : UInt8
  deriving DecidableEq, Repr

/-- Decodes bytes from a position on, with the half of a pair that stands before it. -/
def decodeFrom (order : ByteOrder) (position : Nat) (half : Option Half) :
    List UInt8 → Except Fault (List Char)
  | [] =>
    match half with
    | none => .ok []
    | some half => .error (faultAt half.first (position - 2) 2 .unexpectedEnd)
  | [byte] =>
    match half with
    | none => .error (faultAt byte position 1 .truncated)
    | some half => .error (faultAt half.first (position - 2) 3 .unexpectedEnd)
  | first :: second :: rest =>
    let unit := order.unit first second
    match half with
    | none =>
      if 0xD800 ≤ unit ∧ unit < 0xDC00 then
        decodeFrom order (position + 2) (some { unit, first }) rest
      else if 0xDC00 ≤ unit ∧ unit < 0xE000 then
        .error (faultAt first position 2 .illegalEncoding)
      else (decodeFrom order (position + 2) none rest).map (Char.ofNat unit :: ·)
    | some half =>
      if 0xDC00 ≤ unit ∧ unit < 0xE000 then
        let value := 0x10000 + (half.unit - 0xD800) * 0x400 + (unit - 0xDC00)
        (decodeFrom order (position + 2) none rest).map (Char.ofNat value :: ·)
      else .error (faultAt half.first (position - 2) 2 .illegalSurrogate)
where
  /-- The fault at a number of bytes. -/
  faultAt (first : UInt8) (start count : Nat) (reason : FaultReason) : Fault :=
    { encoding := order.name, first, start, count, reason }

/-- The text that bytes write in an order. -/
def decode (order : ByteOrder) (bytes : List UInt8) : Except Fault (List Char) :=
  decodeFrom order 0 none bytes

/-- The order that the mark at the beginning of bytes tells. -/
def markOf? : List UInt8 → Option ByteOrder
  | first :: second :: _ =>
    if ByteOrder.lesserFirst.unit first second = 0xFEFF then some .lesserFirst
    else if ByteOrder.greaterFirst.unit first second = 0xFEFF then some .greaterFirst
    else none
  | _ => none

end Stencil.Encoding.Utf16
