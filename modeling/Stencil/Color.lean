/-
This file holds colors of four channels, which are formattable values.

A color is written as a number sign and two lower-case hexadecimal digits for each of its
channels: red, green, blue and opacity. It can be read from three, six or eight digits of
either case; three digits are doubled one by one, and an opacity that is not given is
full. The placeholders of a color are its channels as integers, as two digits, and as
numbers from zero to one.
-/

import Stencil.Formattable

namespace Stencil

/-- A channel of a color. -/
inductive Channel where
  | red
  | green
  | blue
  | opacity
  deriving DecidableEq, Repr

namespace Channel

/-- The channels in the order in which a color is written. -/
def all : List Channel := [red, green, blue, opacity]

/-- The letter of a channel. -/
def letter : Channel → Char
  | red => 'r'
  | green => 'g'
  | blue => 'b'
  | opacity => 'a'

/-- The channel of a letter. -/
def ofLetter? (letter : Char) : Option Channel := all.find? fun channel => channel.letter = letter

end Channel

/-- A color. -/
structure Color where
  red : UInt8
  green : UInt8
  blue : UInt8
  opacity : UInt8 := 255
  deriving DecidableEq, Repr, Inhabited

/-- Why a color cannot be made. -/
inductive ColorError where
  /-- A channel lies outside of the range from 0 to 255. -/
  | outOfRange (channel : Channel) (value : Int)
  /-- A written color does not begin with a number sign. -/
  | noNumberSign (text : String)
  /-- A written color does not have three, six or eight digits. -/
  | wrongLength (count : Nat)
  /-- A written color has a character that is no hexadecimal digit. -/
  | notHexadecimal (digits : String)
  deriving DecidableEq, Repr

namespace ColorError

/-- The wording of an error. -/
def message : ColorError → String
  | outOfRange channel value =>
    "channel " ++ String.singleton channel.letter ++ " out of range: " ++ toString value
  | noNumberSign text => "Color strings must start with a '#'! (got \"" ++ text ++ "\")"
  | wrongLength count => "Colors must have 3, 6, or 8 hex digits! (got " ++ toString count ++ ")"
  | notHexadecimal digits => "\"" ++ digits ++ "\" is not a valid hexadecimal number"

end ColorError

namespace Color

/-- A channel of a color. -/
def channel (color : Color) : Channel → UInt8
  | .red => color.red
  | .green => color.green
  | .blue => color.blue
  | .opacity => color.opacity

/-! ### Building -/

/-- The color of four channels; the first one that is out of range is reported. -/
def ofChannels (red green blue opacity : Int) : Except ColorError Color := do
  let red ← check .red red
  let green ← check .green green
  let blue ← check .blue blue
  let opacity ← check .opacity opacity
  return { red, green, blue, opacity }
where
  /-- A value that lies in the range of a channel. -/
  check (channel : Channel) (value : Int) : Except ColorError UInt8 :=
    if 0 ≤ value ∧ value ≤ 255 then .ok (UInt8.ofNat value.toNat)
    else .error (.outOfRange channel value)

/-- The number that a hexadecimal digit of either case stands for. -/
def hexValue? (digit : Char) : Option Nat :=
  if digit.isDigit then some (digit.toNat - 0x30)
  else if 'a' ≤ digit ∧ digit ≤ 'f' then some (digit.toNat - 0x61 + 10)
  else if 'A' ≤ digit ∧ digit ≤ 'F' then some (digit.toNat - 0x41 + 10)
  else none

/-- The value of a channel in two digits. -/
def ofDigits (high low : Nat) : UInt8 := UInt8.ofNat (high * 16 + low)

/-- The color of three, six or eight digits. -/
def ofValues? : List Nat → Option Color
  | [r, g, b] =>
    some { red := ofDigits r r, green := ofDigits g g, blue := ofDigits b b }
  | [r, r', g, g', b, b'] =>
    some { red := ofDigits r r', green := ofDigits g g', blue := ofDigits b b' }
  | [r, r', g, g', b, b', a, a'] =>
    some { red := ofDigits r r', green := ofDigits g g', blue := ofDigits b b',
           opacity := ofDigits a a' }
  | _ => none

/-- Reads a color from a number sign and its digits. -/
def ofHex (text : String) : Except ColorError Color :=
  match text.toList with
  | [] => .error (.noNumberSign text)
  | mark :: digits =>
    if mark ≠ '#' then .error (.noNumberSign text)
    else if ¬ (digits.length = 3 ∨ digits.length = 6 ∨ digits.length = 8) then
      .error (.wrongLength digits.length)
    else
      match digits.mapM hexValue? with
      | none => .error (.notHexadecimal (String.ofList digits))
      | some values =>
        match ofValues? values with
        | none => .error (.wrongLength digits.length)
        | some color => .ok color

/-! ### Writing -/

/-- The value of a channel in two digits. -/
def channelDigits (value : UInt8) : List Char := Text.hexDigits 2 value.toNat

/-- A color as a number sign and two digits for each channel. -/
protected def toString (color : Color) : String :=
  String.ofList ('#' :: Channel.all.flatMap fun channel => channelDigits (color.channel channel))

instance : ToString Color := ⟨Color.toString⟩

/-- The value behind a placeholder of a color: the letter of a channel, alone or followed by
the letter of a presentation. -/
def placeholder? (color : Color) (key : String) : Option Primitive :=
  match key.toList with
  | [] => none
  | letter :: presentation =>
    match Channel.ofLetter? letter with
    | none => none
    | some channel =>
      let value := color.channel channel
      match presentation with
      | [] => some (.integer value.toNat)
      | ['x'] => some (.text (String.ofList (channelDigits value)))
      | ['f'] => some (.real (Number.Binary64.ofRatio false value.toNat 255))
      | _ => none

/-- The name of the type of colors. -/
def typeName : String := "color"

/-- The format of a color that writes it as its own text. -/
def defaultFormat : String := "#\x7brx\x7d\x7bgx\x7d\x7bbx\x7d\x7bax\x7d"

/-- A color as a formattable value. -/
def toFormattable (color : Color) : Formattable where
  typeName := typeName
  defaultFormat := defaultFormat
  placeholder? := color.placeholder?

end Color

end Stencil
