/-
This file writes the arguments of directives.

The letter of a directive says how its argument is written: as it is displayed, as it is
described, as it is described in common characters, as a whole number in one of three bases,
as a number with a fraction in one of three notations, or as a character. A precision cuts a
text, fills a whole number up with zeros, and counts the places or the digits of a fraction.
Numbers are laid out as in the specifications of formats; texts and characters have no sign
and are padded with blanks.
-/

import Stencil.Format.Primitive
import Stencil.Log.Message.Directive

namespace Stencil.Log.Directive

/-! ### Kinds of argument -/

/-- The name of the type of data. -/
def typeName : Json → String
  | .null => "NoneType"
  | .bool _ => "bool"
  | .integer _ => "int"
  | .real _ => "float"
  | .text _ => "str"
  | .list _ => "list"
  | .object _ => "dict"

/-- The whole number that data are: a truth value counts as one or zero. -/
def integer? : Json → Option Int
  | .bool value => some (if value then 1 else 0)
  | .integer value => some value
  | _ => none

/-- The whole number that data stand for; a number with a fraction stands for its whole part. -/
def wholeNumber (letter : Char) : Json → Except MessageFault Int
  | .real .nan => .error .nanToInteger
  | .real (.infinite _) => .error .infinityToInteger
  | .real (.finite negative significand exponent) =>
    let (numerator, denominator) := Number.Binary64.ratio significand exponent
    let whole : Int := numerator / denominator
    .ok (if negative then -whole else whole)
  | data =>
    match integer? data with
    | some value => .ok value
    | none => .error (.notANumber letter (typeName data))

/-- The whole number that data are, for a directive that takes no part of a number. -/
def exactNumber (letter : Char) (data : Json) : Except MessageFault Int :=
  match integer? data with
  | some value => .ok value
  | none => .error (.notAnInteger letter (typeName data))

/-- The number of the double format that data stand for. -/
def realNumber : Json → Except MessageFault Number.Binary64
  | .real value => .ok value
  | data =>
    match integer? data with
    | none => .error (.notAReal (typeName data))
    | some value =>
      match Number.Binary64.ofInt? value with
      | none => .error (.overflow .double)
      | some value => .ok value

/-- The character that data stand for: that of a text of one character, or that of a number. -/
def character : Json → Except MessageFault Char
  | .text value =>
    match value.toList with
    | [single] => .ok single
    | _ => .error .notACharacter
  | data =>
    match integer? data with
    | none => .error .notACharacter
    | some value =>
      if value < 0 ∨ 0x110000 ≤ value then .error (.overflow .character)
      else .ok (Char.ofNat value.toNat)

/-! ### Laying out -/

/-- The side of its field on which a text stands. -/
def alignment (directive : Directive) : Alignment := if directive.left then .left else .right

variable [Memory]

/-- A text in the field of a directive. -/
def layoutText (directive : Directive) (text : List Char) : Except MessageFault (List Char) :=
  if Memory.holds directive.width then .ok (pad ' ' directive.alignment directive.width text)
  else .error (.overflow .memory)

/-- The specification that says of numbers what a directive does. -/
def specification (directive : Directive) : Specification where
  fill := if directive.zeros && !directive.left then '0' else ' '
  alignment := if directive.zeros && !directive.left then .behindSign else directive.alignment
  sign := if directive.plus then some .always else if directive.blank then some .spaced else none
  alternate := directive.alternate
  width := some directive.width
  precision := directive.precision
  code := directive.letter

/-- The parts of a number in the field of a directive. -/
def layoutNumber (directive : Directive) (parts : NumberParts) :
    Except MessageFault (List Char) :=
  if Memory.holds directive.width then .ok (directive.specification.layoutNumber parts)
  else .error (.overflow .memory)

/-- The greatest number of digits that a whole number is filled up to. -/
def maxDigits : Nat := Number.powerOfTwo 31 - 4

/-- A whole number as a directive writes it. -/
def layoutInteger (directive : Directive) (value : Int) : Except MessageFault (List Char) :=
  let parts := directive.specification.integerParts value
  let precision := directive.precision.getD 0
  if maxDigits < precision then .error .tooManyDigits
  else
    directive.layoutNumber
      { parts with whole := copies (precision - parts.whole.length) '0' ++ parts.whole }

/-- A text in common characters only: every other one is written by its number. -/
def plainText (text : String) : String :=
  String.ofList (text.toList.flatMap fun character =>
    if character.toNat < 0x80 then [character] else Text.numberEscape character)

/-- A text, cut to the precision of a directive. -/
def cut (directive : Directive) (text : String) : List Char :=
  match directive.precision with
  | none => text.toList
  | some precision => text.toList.take precision

/-- An argument as a directive writes it; the index is that of the directive's letter. -/
def write (directive : Directive) (index : Nat) (argument : Json) :
    Except MessageFault (List Char) :=
  let letter := directive.letter
  if letter = 's' then directive.layoutText (directive.cut argument.display)
  else if letter = 'r' then directive.layoutText (directive.cut argument.described)
  else if letter = 'a' then directive.layoutText (directive.cut (plainText argument.described))
  else if letter = 'd' ∨ letter = 'i' ∨ letter = 'u' then
    (wholeNumber letter argument).bind directive.layoutInteger
  else if letter = 'o' ∨ letter = 'x' ∨ letter = 'X' then
    (exactNumber letter argument).bind directive.layoutInteger
  else if "eEfFgG".toList.contains letter then
    (realNumber argument).bind fun value =>
      directive.layoutNumber (directive.specification.realParts value)
  else if letter = 'c' then
    (character argument).bind fun character => directive.layoutText [character]
  else .error (.unsupported letter index)

end Stencil.Log.Directive
