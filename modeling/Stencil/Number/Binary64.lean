/-
This file holds the numbers of the double format and how other numbers are rounded to them.

A finite number is a pair of a significand and an exponent, worth the significand times a
power of two. The significand has at most 53 binary digits and the exponent is as small as
it can be with all 53 in use, but never below -1074; so every finite number of the format
has one pair, apart from the two zeros. Rounding takes an exact ratio to the nearest number
of the format, and of two that are equally near to the one with the even significand.
-/

import Stencil.Number.Power
import Stencil.Text.Blank
import Stencil.Text.Digit

namespace Stencil.Number

/-! ### Rounding a ratio -/

/-- The nearest whole number to a ratio; a half goes to the even neighbour. -/
def roundHalfEven (numerator denominator : Nat) : Nat :=
  let quotient := numerator / denominator
  let remainder := numerator % denominator
  if denominator < 2 * remainder then quotient + 1
  else if 2 * remainder = denominator ∧ quotient % 2 = 1 then quotient + 1
  else quotient

/-- The whole part of a ratio's binary logarithm, for positive numbers. -/
def ratioLog2 (numerator denominator : Nat) : Int :=
  let estimate : Int := (numerator.log2 : Int) - denominator.log2
  let reached :=
    if 0 ≤ estimate then decide (denominator * powerOfTwo estimate.toNat ≤ numerator)
    else decide (denominator ≤ numerator * powerOfTwo (-estimate).toNat)
  if reached then estimate else estimate - 1

/-! ### The format -/

/-- A number of the double format. -/
inductive Binary64 where
  /-- Not a number. -/
  | nan
  /-- Beyond every finite number. -/
  | infinite (negative : Bool)
  /-- The significand times two to the power of the exponent. -/
  | finite (negative : Bool) (significand : Nat) (exponent : Int)
  deriving DecidableEq, Repr, Inhabited

namespace Binary64

/-- The least exponent of the format, that of the least numbers. -/
def minExponent : Int := -1074

/-- The greatest exponent of the format. -/
def maxExponent : Int := 971

/-- The number of binary digits of a full significand. -/
def precision : Nat := 53

/-- Zero with a sign. -/
def zero (negative : Bool) : Binary64 := .finite negative 0 minExponent

/-- A ratio, rounded to the format. A magnitude that rounds beyond the greatest finite
number is infinite. -/
def ofRatio (negative : Bool) (numerator denominator : Nat) : Binary64 :=
  if numerator = 0 then zero negative
  else
    let exponent := max (ratioLog2 numerator denominator - 52) minExponent
    let significand :=
      if 0 ≤ exponent then roundHalfEven numerator (denominator * powerOfTwo exponent.toNat)
      else roundHalfEven (numerator * powerOfTwo (-exponent).toNat) denominator
    let (significand, exponent) :=
      if significand = powerOfTwo precision then (powerOfTwo (precision - 1), exponent + 1)
      else (significand, exponent)
    if maxExponent < exponent then .infinite negative else .finite negative significand exponent

/-- The magnitude of a finite number as a ratio of whole numbers. -/
def ratio (significand : Nat) (exponent : Int) : Nat × Nat :=
  if 0 ≤ exponent then (significand * powerOfTwo exponent.toNat, 1)
  else (significand, powerOfTwo (-exponent).toNat)

/-- A whole number, rounded to the format; none if it is too large. -/
def ofInt? (value : Int) : Option Binary64 :=
  match ofRatio (decide (value < 0)) value.natAbs 1 with
  | .finite negative significand exponent => some (.finite negative significand exponent)
  | _ => none

/-- The product with a whole number, rounded to the format. -/
def timesNat (number : Binary64) (factor : Nat) : Binary64 :=
  match number with
  | .nan => .nan
  | .infinite negative => .infinite negative
  | .finite negative significand exponent =>
    let (numerator, denominator) := ratio significand exponent
    ofRatio negative (numerator * factor) denominator

/-- A number of the format equals a whole number. -/
def equalsInt (number : Binary64) (value : Int) : Bool :=
  match number with
  | .finite negative significand exponent =>
    let (numerator, denominator) := ratio significand exponent
    let signed : Int := if negative then -numerator else numerator
    signed == value * denominator
  | _ => false

/-- Two numbers are equal; the two zeros are, and what is not a number equals nothing. -/
def same : (first second : Binary64) → Bool
  | .infinite negative, .infinite negative' => negative == negative'
  | .finite negative significand exponent, .finite negative' significand' exponent' =>
    significand == significand' &&
      (significand == 0 || (exponent == exponent' && negative == negative'))
  | _, _ => false

/-! ### Reading decimal text -/

/-- The number written as a sequence of decimal digits times a power of ten. Powers far
outside the format are not computed: they make zero or infinity. -/
def ofDecimal (negative : Bool) (digits : List Char) (exponent : Int) : Binary64 :=
  let digits := digits.dropWhile (· = '0')
  let magnitude : Int := digits.length + exponent
  if digits.isEmpty then zero negative
  else if 400 < magnitude then .infinite negative
  else if magnitude < -400 then zero negative
  else
    let value := digits.foldl (fun value digit => value * 10 + (digit.toNat - 0x30)) 0
    if 0 ≤ exponent then ofRatio negative (value * powerOfTen exponent.toNat) 1
    else ofRatio negative value (powerOfTen (-exponent).toNat)

/-- Splits a sign from the text of a number. -/
def splitSign : List Char → Bool × List Char
  | [] => (false, [])
  | first :: rest =>
    if first = '-' then (true, rest)
    else if first = '+' then (false, rest)
    else (false, first :: rest)

/-- The decimal exponent behind the mark of a number in scientific notation. -/
def readExponent? (text : List Char) : Option Int :=
  let (negative, digits) := splitSign text
  if digits.isEmpty || !digits.all Char.isDigit then none
  else
    let value : Int := digits.foldl (fun value digit => value * 10 + (digit.toNat - 0x30)) 0
    some (if negative then -value else value)

/-- A blank that may stand before and behind a number: all but the information separators. -/
def isMargin (character : Char) : Bool :=
  Text.isBlank character && !(decide (0x1c ≤ character.toNat) && decide (character.toNat < 0x20))

/-- The text without the blanks before it and behind it. -/
def withoutMargins (text : List Char) : List Char :=
  ((text.dropWhile isMargin).reverse.dropWhile isMargin).reverse

/-- A digit of any script as the common digit of its worth, and all else as it is. -/
def commonDigit (character : Char) : Char :=
  match Text.decimalValue? character with
  | none => character
  | some value => Text.digitChar value

/-- The text without the underscores in it, each of which has to stand between two digits. -/
def withoutSeparators? : List Char → Option (List Char)
  | [] => some []
  | first :: '_' :: next :: rest =>
    if first.isDigit && next.isDigit then
      (withoutSeparators? (next :: rest)).map (first :: ·)
    else none
  | first :: rest => if first = '_' then none else (withoutSeparators? rest).map (first :: ·)

/-- Reads the plain text of a number: a sign, and then digits with at most one point and an
exponent, or a word for infinity or for what is not a number. -/
def ofPlainText? (text : List Char) : Option Binary64 :=
  let (negative, body) := splitSign text
  let word := body.map Char.toLower
  if word = "inf".toList || word = "infinity".toList then some (.infinite negative)
  else if word = "nan".toList then some .nan
  else
    let whole := body.takeWhile Char.isDigit
    let behindWhole := body.dropWhile Char.isDigit
    let (fraction, behindFraction) :=
      if behindWhole.head? = some '.' then
        let rest := behindWhole.drop 1
        (rest.takeWhile Char.isDigit, rest.dropWhile Char.isDigit)
      else ([], behindWhole)
    if whole.isEmpty && fraction.isEmpty then none
    else
      let exponent? : Option Int :=
        match behindFraction with
        | [] => some 0
        | mark :: rest => if mark = 'e' || mark = 'E' then readExponent? rest else none
      exponent?.map fun exponent =>
        ofDecimal negative (whole ++ fraction) (exponent - fraction.length)

/-- Reads the text of a number, which may have blanks around it, digits of any script, and
single underscores between its digits. -/
def ofText? (text : String) : Option Binary64 :=
  (withoutSeparators? ((withoutMargins text.toList).map commonDigit)).bind ofPlainText?

end Binary64

end Stencil.Number
