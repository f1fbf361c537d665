/-
This file holds the faults of a log message: why its arguments cannot be filled into its
pattern.

The pattern itself may be at fault, or it asks for arguments that are not there or are not
of the kind that it needs, or a number is too large for what is asked of it. The causes are
told apart, and the wording of each is given once.
-/

import Stencil.Format.Fault
import Stencil.Text.Digit
import Stencil.Text.Quoted

namespace Stencil.Log

/-- Why a pattern cannot be filled. -/
inductive MessageFault where
  /-- There is no argument left for a directive. -/
  | notEnoughArguments
  /-- An argument is left over. -/
  | tooManyArguments
  /-- The pattern ends inside a directive. -/
  | incomplete
  /-- The pattern ends inside the name of a field. -/
  | incompleteName
  /-- A field is named, and the argument is no object with fields. -/
  | notAnObject
  /-- The object has no field of this name. -/
  | noSuchField (name : String)
  /-- The letter at an index of the pattern ends no directive. -/
  | unsupported (letter : Char) (index : Nat)
  /-- A width is written with too great a number. -/
  | widthTooLarge
  /-- A precision is written with too great a number. -/
  | precisionTooLarge
  /-- An argument stands for a width or a precision and is no whole number. -/
  | sizeNotInteger
  /-- An argument stands for a width and is too great a number. -/
  | widthOutOfReach
  /-- An argument stands for a precision and is too great a number. -/
  | precisionOutOfReach
  /-- A precision is beyond what a whole number can be filled up to. -/
  | tooManyDigits
  /-- A number is asked for and data of another type are given. -/
  | notANumber (letter : Char) (typeName : String)
  /-- A whole number is asked for and data of another type are given. -/
  | notAnInteger (letter : Char) (typeName : String)
  /-- A number with a fraction is asked for and data of another type are given. -/
  | notAReal (typeName : String)
  /-- A character is asked for, and neither a text of one character nor a number is given. -/
  | notACharacter
  /-- What is not a number has no whole part. -/
  | nanToInteger
  /-- What is infinite has no whole part. -/
  | infinityToInteger
  /-- A number is too large for its presentation. -/
  | overflow (cause : NumberOverflow)
  deriving DecidableEq, Repr

namespace MessageFault

/-- A character in the wording of a fault: as itself if it is one of the common characters, and
else as a question mark. -/
def shownLetter (letter : Char) : Char :=
  if 31 ≤ letter.toNat ∧ letter.toNat ≤ 126 then letter else '?'

/-- The beginning of the wording of a fault of a directive and its argument. -/
def directiveText (letter : Char) : String := "%" ++ String.singleton letter ++ " format: "

/-- The wording of a fault. -/
def message : MessageFault → String
  | notEnoughArguments => "not enough arguments for format string"
  | tooManyArguments => "not all arguments converted during string formatting"
  | incomplete => "incomplete format"
  | incompleteName => "incomplete format key"
  | notAnObject => "format requires a mapping"
  | noSuchField name => Text.quoted name
  | unsupported letter index =>
    "unsupported format character '" ++ String.singleton (shownLetter letter) ++ "' (0x" ++
      String.ofList (Text.hexDigits 1 letter.toNat) ++ ") at index " ++ toString index
  | widthTooLarge => "width too big"
  | precisionTooLarge => "precision too big"
  | sizeNotInteger => "* wants int"
  | widthOutOfReach => "Python int too large to convert to C ssize_t"
  | precisionOutOfReach => "Python int too large to convert to C int"
  | tooManyDigits => "precision too large"
  | notANumber letter typeName =>
    directiveText letter ++ "a real number is required, not " ++ typeName
  | notAnInteger letter typeName =>
    directiveText letter ++ "an integer is required, not " ++ typeName
  | notAReal typeName => "must be real number, not " ++ typeName
  | notACharacter => "%c requires int or char"
  | nanToInteger => "cannot convert float NaN to integer"
  | infinityToInteger => "cannot convert float infinity to integer"
  | overflow cause => cause.message

end MessageFault

end Stencil.Log
