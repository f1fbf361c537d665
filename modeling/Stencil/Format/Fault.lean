/-
This file holds the faults of a format string and of the specifications inside it.

A format string is literal text with fields in braces, and a field may carry a
specification that says how its value is laid out. The faults are kept as causes; the
wording of each is given once, here. Apart from them, a number can be too large for what
the specification asks of it, which is no fault of the format string.
-/

import Stencil.Number.Power

namespace Stencil

/-- The kinds of value that a field can stand for. -/
inductive PrimitiveKind where
  | text
  | integer
  | real
  deriving DecidableEq, Repr, Inhabited

namespace PrimitiveKind

/-- The word for a kind of value in the wording of a fault. -/
def label : PrimitiveKind → String
  | text => "str"
  | integer => "int"
  | real => "float"

end PrimitiveKind

/-- What is wrong with a format string, or with a specification for the value it is applied
to. -/
inductive FormatFault where
  /-- A closing brace stands alone in literal text. -/
  | loneClosingBrace
  /-- An opening brace ends the format string. -/
  | loneOpeningBrace
  /-- The name of a field goes on to the end of the format string. -/
  | fieldNotClosed
  /-- The name of a field holds an opening brace. -/
  | braceInFieldName
  /-- The specification of a field goes on to the end of the format string. -/
  | specificationNotClosed
  /-- The character that names a conversion is followed by something else than a
  specification. -/
  | textBehindConversion
  /-- The format string ends where a conversion should be named. -/
  | conversionMissing
  /-- There is no conversion of this name. -/
  | unknownConversion (conversion : Char)
  /-- A specification holds a field whose specification holds a field. -/
  | nestedTooDeep
  /-- Fields with and without numbers are mixed. -/
  | numberingMixed
  /-- A specification goes on behind its presentation code. -/
  | invalidSpecification (specification : String) (kind : PrimitiveKind)
  /-- A kind of value has no presentation of this code. -/
  | unknownCode (code : Char) (kind : PrimitiveKind)
  /-- A width or a precision is too large. -/
  | numberTooLarge
  /-- A point is followed by no precision. -/
  | precisionMissing
  /-- Two separators of digit groups are given. -/
  | twoSeparators
  /-- A presentation does not group its digits with this separator. -/
  | separatorRefused (separator code : Char)
  /-- A precision is given for an integer. -/
  | precisionOnInteger
  /-- A precision is beyond what a number can be written with. -/
  | precisionTooLarge
  /-- A sign is asked for with an integer that is written as a character. -/
  | signOnCharacter
  /-- The alternate form is asked for with an integer that is written as a character. -/
  | alternateOnCharacter
  /-- A sign is asked for with a text. -/
  | signOnText
  /-- A space in place of a sign is asked for with a text. -/
  | spaceOnText
  /-- The alternate form is asked for with a text. -/
  | alternateOnText
  /-- Padding behind the sign is asked for with a text. -/
  | signPaddingOnText
  /-- A sign is to be dropped from zero, and the value has no such sign. -/
  | zeroSignRefused (kind : PrimitiveKind)
  /-- An integer has more decimal digits than are written. -/
  | integerTooLong
  deriving DecidableEq, Repr, Inhabited

namespace FormatFault

/-- A character in the wording of a fault: as itself if it is a visible one of the common
characters, and else by its number. -/
def shownCode (code : Char) : String :=
  if 0x20 < code.toNat ∧ code.toNat < 0x80 then String.singleton code
  else "\\x" ++ String.ofList (Nat.toDigits 16 code.toNat)

/-- The wording of a fault. -/
def reason : FormatFault → String
  | loneClosingBrace => "Single '\x7d' encountered in format string"
  | loneOpeningBrace => "Single '\x7b' encountered in format string"
  | fieldNotClosed => "expected '\x7d' before end of string"
  | braceInFieldName => "unexpected '\x7b' in field name"
  | specificationNotClosed => "unmatched '\x7b' in format spec"
  | textBehindConversion => "expected ':' after conversion specifier"
  | conversionMissing => "end of string while looking for conversion specifier"
  | unknownConversion conversion =>
    "Unknown conversion specifier " ++ String.singleton conversion
  | nestedTooDeep => "Max string recursion exceeded"
  | numberingMixed =>
    "cannot switch from manual field specification to automatic field numbering"
  | invalidSpecification specification kind =>
    "Invalid format specifier '" ++ specification ++ "' for object of type '" ++ kind.label ++ "'"
  | unknownCode code kind =>
    "Unknown format code '" ++ shownCode code ++ "' for object of type '" ++ kind.label ++ "'"
  | numberTooLarge => "Too many decimal digits in format string"
  | precisionMissing => "Format specifier missing precision"
  | twoSeparators => "Cannot specify both ',' and '_'."
  | separatorRefused separator code =>
    "Cannot specify '" ++ String.singleton separator ++ "' with '" ++ shownCode code ++ "'."
  | precisionOnInteger => "Precision not allowed in integer format specifier"
  | precisionTooLarge => "precision too big"
  | signOnCharacter => "Sign not allowed with integer format specifier 'c'"
  | alternateOnCharacter => "Alternate form (#) not allowed with integer format specifier 'c'"
  | signOnText => "Sign not allowed in string format specifier"
  | spaceOnText => "Space not allowed in string format specifier"
  | alternateOnText => "Alternate form (#) not allowed in string format specifier"
  | signPaddingOnText => "'=' alignment not allowed in string format specifier"
  | zeroSignRefused kind =>
    "Negative zero coercion (z) not allowed in " ++
      (if kind = .integer then "integer" else "string") ++ " format specifier"
  | integerTooLong => Number.maxDigitsMessage ""

end FormatFault

/-- What a number is too large for. -/
inductive NumberOverflow where
  /-- The number is not that of a character. -/
  | character
  /-- The number does not fit into a machine word and cannot be that of a character. -/
  | word
  /-- The number is beyond the double format. -/
  | double
  /-- The number is the width of a field that does not fit into memory. -/
  | memory
  deriving DecidableEq, Repr, Inhabited

namespace NumberOverflow

/-- The wording of an overflow. -/
def message : NumberOverflow → String
  | character => "%c arg not in range(0x110000)"
  | word => "Python int too large to convert to C long"
  | double => "int too large to convert to float"
  | memory => ""

end NumberOverflow

/-- Why a value cannot be laid out. -/
inductive FormatError where
  /-- A field names nothing that is known. -/
  | unknownPlaceholder (key : String)
  /-- The format string or a specification in it is at fault. -/
  | malformed (fault : FormatFault)
  /-- A number is too large for its presentation. -/
  | overflow (cause : NumberOverflow)
  deriving DecidableEq, Repr, Inhabited

end Stencil
