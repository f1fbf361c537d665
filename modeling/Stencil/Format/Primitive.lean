/-
This file writes the values that a field can stand for: texts, integers and numbers of the
double format.

Each kind of value has its own presentations, and each presentation its own rules for the
parts of a specification. A specification that says nothing writes the value as it is: a
text as itself and a number in its shortest form. An integer is taken to the double
format first where a presentation of such numbers is asked for.
-/

import Stencil.Format.Layout
import Stencil.Number.Decimal
import Stencil.Text.Quoted

namespace Stencil

open Number (Binary64 Expansion Numeral)

/-- A value that a field of a format string can stand for. -/
inductive Primitive where
  | text (value : String)
  | integer (value : Int)
  | real (value : Binary64)
  deriving DecidableEq, Repr, Inhabited

namespace Primitive

/-- The kind of a value. -/
def kind : Primitive → PrimitiveKind
  | text _ => .text
  | integer _ => .integer
  | real _ => .real

/-- The value as it is. -/
def display : Primitive → Except FormatFault String
  | text value => .ok value
  | integer value => if Number.isTooLong value then .error .integerTooLong else .ok (toString value)
  | real value => .ok value.text

/-- The value as it is, with quotes around a text. -/
def quoted (plain : Bool) : Primitive → Except FormatFault String
  | text value => .ok (Text.quoted value plain)
  | integer value => (integer value).display
  | real value => (real value).display

/-- The value that a named conversion makes of a value; all conversions make texts. -/
def convert (conversion : Char) (value : Primitive) : Except FormatFault Primitive :=
  if conversion = 's' then value.display.map .text
  else if conversion = 'r' then (value.quoted false).map .text
  else if conversion = 'a' then (value.quoted true).map .text
  else .error (.unknownConversion conversion)

end Primitive

namespace Specification

/-! ### Texts -/

/-- A text laid out as a specification says; a precision cuts it. -/
def layoutText (specification : Specification) (value : List Char) :
    Except FormatFault (List Char) :=
  if specification.code ≠ 's' then .error (.unknownCode specification.code .text)
  else if specification.sign = some .spaced then .error .spaceOnText
  else if specification.sign.isSome then .error .signOnText
  else if specification.dropsZeroSign then .error (.zeroSignRefused .text)
  else if specification.alternate then .error .alternateOnText
  else if specification.alignment = .behindSign then .error .signPaddingOnText
  else
    let cut := (specification.precision.map value.take).getD value
    .ok (pad specification.fill specification.alignment (specification.width.getD 0) cut)

/-! ### Numbers of the double format -/

/-- The presentations of numbers of the double format. -/
def isRealCode (code : Char) : Bool := "\x00eEfFgGn%".toList.contains code

/-- A presentation is written in capital letters. -/
def isCapital (code : Char) : Bool := "EFG".toList.contains code

/-- The places behind the point when no precision is given. -/
def defaultPrecision : Nat := 6

/-- The greatest precision a number is written with. -/
def maxPrecision : Nat := Number.powerOfTwo 31 - 1

/-- A number of digits that no number of the double format has more than; behind them there are
only zeros. -/
def digitsSuffice : Nat := 800

/-- A number with a count of significant digits, in the shorter of the two layouts. Where
a place is always kept, the layout with an exponent is taken one digit earlier. -/
def generalNumeral (specification : Specification) (numerator denominator count : Nat)
    (keepsPlace : Bool) : Numeral :=
  let count := max count 1
  let expansion :=
    (Expansion.significant numerator denominator (min count digitsSuffice)).trim
  let limit : Int := if keepsPlace then count - 1 else count
  if expansion.point ≤ -4 ∨ limit < expansion.point then
    .scientific expansion (if specification.alternate then count - 1 else 0)
  else
    let places := if specification.alternate then (count - expansion.point).toNat else 0
    .positional expansion (if keepsPlace then max places 1 else places)

/-- A number of places that no number of the double format has more than behind the point. -/
def placesSuffice : Nat := 1100

/-- A number with a number of places behind the point. -/
def fixedNumeral (numerator denominator places : Nat) : Numeral :=
  let numeral := Numeral.fixed numerator denominator (min places placesSuffice)
  { numeral with fraction := Numeral.padEnd numeral.fraction places }

/-- A number with an exponent and a number of places behind the point. The greatest precision
leaves no room to count the digit before the point, and gives no places. -/
def exponentNumeral (numerator denominator places : Nat) : Numeral :=
  let places := if places = maxPrecision then 0 else places
  .scientific (.significant numerator denominator (min (places + 1) digitsSuffice)) places

/-- The numeral of a finite number in the presentation of a specification. -/
def finiteNumeral (specification : Specification) (significand : Nat) (exponent : Int) :
    Numeral :=
  let (numerator, denominator) := Binary64.ratio significand exponent
  let places := specification.precision.getD defaultPrecision
  let code := specification.code
  if code = '\x00' then
    match specification.precision with
    | none => Binary64.shortestNumeral significand exponent
    | some count => specification.generalNumeral numerator denominator count true
  else if code = 'e' ∨ code = 'E' then
    exponentNumeral numerator denominator places
  else if code = 'f' ∨ code = 'F' ∨ code = '%' then
    fixedNumeral numerator denominator places
  else specification.generalNumeral numerator denominator places false

/-- The letters of a word, in capitals for a presentation in capital letters. -/
def word (specification : Specification) (letters : String) : List Char :=
  if isCapital specification.code then letters.toList.map Char.toUpper else letters.toList

/-- The parts of a number in the presentation of a specification. -/
def realParts (specification : Specification) (value : Binary64) : NumberParts :=
  let percent := specification.code = '%'
  let unit := if percent then ['%'] else []
  match if percent then value.timesNat 100 else value with
  | .nan => { behind := specification.word "nan" ++ unit }
  | .infinite negative => { negative, behind := specification.word "inf" ++ unit }
  | .finite negative significand exponent =>
    let numeral := specification.finiteNumeral significand exponent
    { negative := negative && !(specification.dropsZeroSign && numeral.isZero)
      whole := numeral.whole
      point := numeral.hasPoint specification.alternate
      behind := numeral.tail (if isCapital specification.code then 'E' else 'e') ++ unit }

/-- A number of the double format laid out as a specification says. -/
def layoutReal (specification : Specification) (value : Binary64) :
    Except FormatFault (List Char) :=
  if maxPrecision < specification.precision.getD 0 then .error .precisionTooLarge
  else .ok (specification.layoutNumber (specification.realParts value))

/-! ### Integers -/

/-- The base of the digits in a presentation of integers. -/
def base (code : Char) : Nat :=
  if code = 'b' then 2
  else if code = 'o' then 8
  else if code = 'x' ∨ code = 'X' then 16
  else 10

/-- The presentations of integers in digits. -/
def isDigitCode (code : Char) : Bool := "bdoxXn".toList.contains code

/-- The parts of an integer in digits. -/
def integerParts (specification : Specification) (value : Int) : NumberParts :=
  let code := specification.code
  let digits := Nat.toDigits (base code) value.natAbs
  { negative := decide (value < 0)
    mark := if specification.alternate && base code ≠ 10 then ['0', code] else []
    whole := if code = 'X' then digits.map Char.toUpper else digits }

/-- An integer as the character of that number. A text is made of whole characters, so the
numbers from 0xD800 to 0xDFFF, which are halves of pairs and no characters, cannot stand in one;
the character of the number zero is written for them. -/
def characterParts (value : Int) : Except NumberOverflow NumberParts :=
  if value < -Number.limit64 ∨ Number.limit64 ≤ value then .error .word
  else if value < 0 ∨ 0x110000 ≤ value then .error .character
  else .ok { behind := [Char.ofNat value.toNat] }

/-- An integer laid out as a specification says. -/
def layoutInteger (specification : Specification) (value : Int) :
    Except FormatError (List Char) :=
  let code := specification.code
  if isRealCode code && code ≠ 'n' && code ≠ '\x00' then
    match Binary64.ofInt? value with
    | none => .error (.overflow .double)
    | some real => (specification.layoutReal real).mapError .malformed
  else if code ≠ 'c' && !isDigitCode code then .error (.malformed (.unknownCode code .integer))
  else if specification.precision.isSome then .error (.malformed .precisionOnInteger)
  else if specification.dropsZeroSign then .error (.malformed (.zeroSignRefused .integer))
  else if code ≠ 'c' then
    if base code = 10 && Number.isTooLong value then .error (.malformed .integerTooLong)
    else .ok (specification.layoutNumber (specification.integerParts value))
  else if specification.sign.isSome then .error (.malformed .signOnCharacter)
  else if specification.alternate then .error (.malformed .alternateOnCharacter)
  else
    match characterParts value with
    | .error cause => .error (.overflow cause)
    | .ok parts => .ok (specification.layoutNumber parts)

end Specification

namespace Primitive

/-- A value laid out as a specification says. -/
def layout (value : Primitive) (specification : Specification) :
    Except FormatError (List Char) :=
  match value with
  | text value => (specification.layoutText value.toList).mapError .malformed
  | integer value => specification.layoutInteger value
  | real value =>
    if Specification.isRealCode specification.code then
      (specification.layoutReal value).mapError .malformed
    else .error (.malformed (.unknownCode specification.code .real))

variable [Memory]

/-- A value laid out as the text of a specification says. An empty one writes the value as
it is. A field that memory does not hold is refused once the value could be written without it. -/
def format (value : Primitive) (specification : List Char) : Except FormatError (List Char) :=
  if specification = [] then (value.display.map String.toList).mapError .malformed
  else
    match Specification.parse value.kind specification with
    | .error fault => .error (.malformed fault)
    | .ok parsed =>
      if Memory.holds (parsed.width.getD 0) then value.layout parsed
      else (value.layout { parsed with width := none }).bind fun _ => .error (.overflow .memory)

end Primitive

end Stencil
