/-
This file reads format specifications, the part of a field behind its colon.

A specification is a row of optional parts in a fixed order: a fill character and an
alignment, a sign rule, `z`, `#`, `0`, a width, a separator of digit groups, a point with
a precision, and a presentation code. Every part is read greedily, and one character more
than a code is a fault. A width or a precision may be written in the decimal digits of
any script.
-/

import Stencil.Format.Fault
import Stencil.Number.Power
import Stencil.Text.Digit

namespace Stencil

/-- Where a value stands in a field that is wider than it. -/
inductive Alignment where
  | left
  | right
  | center
  /-- The padding stands between the sign of a number and its digits. -/
  | behindSign
  deriving DecidableEq, Repr, Inhabited

/-- What is written for the sign of a number. -/
inductive SignRule where
  /-- A sign in every case. -/
  | always
  /-- A minus for negative numbers only. -/
  | negativeOnly
  /-- A space in the place of a plus. -/
  | spaced
  deriving DecidableEq, Repr, Inhabited

/-- The character between groups of digits. -/
inductive Separator where
  | comma
  | underscore
  deriving DecidableEq, Repr, Inhabited

namespace Alignment

/-- The alignment that a character stands for. -/
def ofChar? (character : Char) : Option Alignment :=
  if character = '<' then some left
  else if character = '>' then some right
  else if character = '^' then some center
  else if character = '=' then some behindSign
  else none

end Alignment

namespace SignRule

/-- The sign rule that a character stands for. -/
def ofChar? (character : Char) : Option SignRule :=
  if character = '+' then some always
  else if character = '-' then some negativeOnly
  else if character = ' ' then some spaced
  else none

end SignRule

namespace Separator

/-- The character that is written. -/
def char : Separator → Char
  | comma => ','
  | underscore => '_'

end Separator

/-- How a value is laid out. -/
structure Specification where
  fill : Char := ' '
  alignment : Alignment
  sign : Option SignRule := none
  /-- A zero that comes out negative is written without its sign. -/
  dropsZeroSign : Bool := false
  /-- The alternate form: the mark of a base, or a point and the zeros behind it. -/
  alternate : Bool := false
  width : Option Nat := none
  separator : Option Separator := none
  precision : Option Nat := none
  /-- The presentation code. -/
  code : Char
  deriving DecidableEq, Repr

namespace Specification

/-- The greatest width or precision that can be given. -/
def maxNumber : Nat := Number.powerOfTwo 63 - 1

/-- The code of a kind of value when none is given. -/
def defaultCode : PrimitiveKind → Char
  | .text => 's'
  | .integer => 'd'
  | .real => '\x00'

/-- The alignment of a kind of value when none is given. -/
def defaultAlignment : PrimitiveKind → Alignment
  | .text => .left
  | .integer | .real => .right

/-- An alignment, with the fill character before it if there is one. Where the second
character is an alignment, the first is a fill character, whatever it is. -/
def readAlignment (text : List Char) : Option Char × Option Alignment × List Char :=
  match text with
  | [] => (none, none, [])
  | first :: rest =>
    match rest.head?.bind Alignment.ofChar? with
    | some alignment => (some first, some alignment, rest.drop 1)
    | none =>
      match Alignment.ofChar? first with
      | some alignment => (none, some alignment, rest)
      | none => (none, none, first :: rest)

/-- Reads a character if it is the next one. -/
def readFlag (flag : Char) : List Char → Bool × List Char
  | [] => (false, [])
  | first :: rest => if first = flag then (true, rest) else (false, first :: rest)

/-- Reads a sign rule if one is next. -/
def readSign : List Char → Option SignRule × List Char
  | [] => (none, [])
  | first :: rest =>
    match SignRule.ofChar? first with
    | some sign => (some sign, rest)
    | none => (none, first :: rest)

/-- Reads a number in decimal digits, if a digit is next. -/
def readNumber (text : List Char) : Except FormatFault (Option Nat × List Char) :=
  let isDecimal (character : Char) : Bool := (Text.decimalValue? character).isSome
  let digits := text.takeWhile isDecimal
  if digits.isEmpty then .ok (none, text)
  else
    let value := digits.foldl
      (fun value digit => value * 10 + (Text.decimalValue? digit).getD 0) 0
    if maxNumber < value then .error .numberTooLarge
    else .ok (some value, text.dropWhile isDecimal)

/-- Reads a separator of digit groups. Two different ones in a row are a fault. -/
def readSeparator (text : List Char) : Except FormatFault (Option Separator × List Char) :=
  let (comma, behindComma) := readFlag ',' text
  let (underscore, behindUnderscore) := readFlag '_' behindComma
  if comma && underscore then .error .twoSeparators
  else if underscore && (readFlag ',' behindUnderscore).1 then .error .twoSeparators
  else if comma then .ok (some .comma, behindComma)
  else if underscore then .ok (some .underscore, behindUnderscore)
  else .ok (none, text)

/-- Reads a point and the precision behind it. -/
def readPrecision (text : List Char) : Except FormatFault (Option Nat × List Char) :=
  match readFlag '.' text with
  | (false, _) => .ok (none, text)
  | (true, rest) =>
    match readNumber rest with
    | .error fault => .error fault
    | .ok (none, _) => .error .precisionMissing
    | .ok (some precision, behind) => .ok (some precision, behind)

/-- The presentations whose digits can be grouped in threes. -/
def groupsThousands (code : Char) : Bool := "defgEG%F\x00".toList.contains code

/-- The presentations whose digits are grouped in fours, with underscores only. -/
def groupsFours (code : Char) : Bool := "boxX".toList.contains code

/-- A presentation goes with a separator of digit groups. -/
def allowsSeparator (separator : Separator) (code : Char) : Bool :=
  groupsThousands code || (groupsFours code && separator = .underscore)

/-- Reads a specification for a kind of value. -/
def parse (kind : PrimitiveKind) (text : List Char) : Except FormatFault Specification := do
  let (fill, alignment, behindAlignment) := readAlignment text
  let (sign, behindSign) := readSign behindAlignment
  let (dropsZeroSign, behindZeroSign) := readFlag 'z' behindSign
  let (alternate, behindAlternate) := readFlag '#' behindZeroSign
  let (zeros, behindZeros) :=
    if fill.isNone then readFlag '0' behindAlternate else (false, behindAlternate)
  let (width, behindWidth) ← readNumber behindZeros
  let (separator, behindSeparator) ← readSeparator behindWidth
  let (precision, behindPrecision) ← readPrecision behindSeparator
  let code ← match behindPrecision with
    | [] => pure (defaultCode kind)
    | [code] => pure code
    | _ => throw (.invalidSpecification (String.ofList text) kind)
  if let some mark := separator then
    if !allowsSeparator mark code then throw (.separatorRefused mark.char code)
  let usual :=
    if zeros && defaultAlignment kind = .right then Alignment.behindSign
    else defaultAlignment kind
  return {
    fill := fill.getD (if zeros then '0' else ' ')
    alignment := alignment.getD usual
    sign, dropsZeroSign, alternate, width, separator, precision, code }

end Specification

end Stencil
