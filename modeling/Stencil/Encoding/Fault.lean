/-
This file holds what can be wrong with bytes that are read as text.

A fault lies at a span of bytes that no character is written as. It names the encoding, the
span, and the reason; where the span is a single byte its wording names the byte too.
-/

import Stencil.Number.Decimal
import Stencil.Text.Quoted

namespace Stencil.Encoding

/-- Why bytes are no text. -/
inductive FaultReason where
  /-- No character begins with this byte. -/
  | invalidStart
  /-- The character that has begun does not go on like this. -/
  | invalidContinuation
  /-- The bytes end inside a character. -/
  | unexpectedEnd
  /-- The bytes end inside a unit. -/
  | truncated
  /-- A unit that ends a pair stands alone. -/
  | illegalEncoding
  /-- A unit that begins a pair is followed by none that ends it. -/
  | illegalSurrogate
  /-- The byte is beyond the common characters. -/
  | notCommon
  deriving DecidableEq, Repr

namespace FaultReason

/-- The wording of a reason. -/
def message : FaultReason → String
  | invalidStart => "invalid start byte"
  | invalidContinuation => "invalid continuation byte"
  | unexpectedEnd => "unexpected end of data"
  | truncated => "truncated data"
  | illegalEncoding => "illegal encoding"
  | illegalSurrogate => "illegal UTF-16 surrogate"
  | notCommon => "ordinal not in range(128)"

end FaultReason

/-- Bytes that are no text: the encoding, the first byte and the number of those concerned, and
the position of the first one. -/
structure Fault where
  encoding : String
  first : UInt8
  start : Nat
  count : Nat
  reason : FaultReason
  deriving DecidableEq, Repr

namespace Fault

/-- The wording of a fault. -/
def message (fault : Fault) : String :=
  let place :=
    if fault.count = 1 then
      "byte 0x" ++ String.ofList (Text.hexDigits 2 fault.first.toNat) ++ " in position " ++
        toString fault.start
    else
      "bytes in position " ++ toString fault.start ++ "-" ++
        toString (fault.start + fault.count - 1)
  "'" ++ fault.encoding ++ "' codec can't decode " ++ place ++ ": " ++ fault.reason.message

end Fault

end Stencil.Encoding
