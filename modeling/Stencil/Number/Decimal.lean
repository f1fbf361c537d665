/-
This file writes numbers in decimal digits.

A positive ratio has a decimal expansion to any number of significant digits, rounded to
the nearest, and of two that are equally near to the even one. A number of the double
format also has a shortest expansion: the fewest digits that read back as the same
number, and of those the ones nearest to it. It is found by trying one digit, two digits
and so on, on the exact grid of decimal numbers with that many digits; seventeen digits
always suffice. A numeral is an expansion laid out with a point or with an exponent.
-/

import Stencil.Number.Binary64

namespace Stencil.Number

/-- The decimal digits of a number, most significant first. -/
def decimalDigits (value : Nat) : List Char := Nat.toDigits 10 value

/-- An integer has more decimal digits than are written. -/
def isTooLong (value : Int) : Bool := decide (maxDigits < (decimalDigits value.natAbs).length)

/-- A decimal expansion: the digits stand behind the point, times ten to the power `point`. -/
structure Expansion where
  digits : List Char
  point : Int
  deriving DecidableEq, Repr, Inhabited

namespace Expansion

/-- The expansion of zero. -/
def zero : Expansion := { digits := ['0'], point := 1 }

/-- An expansion without the zeros at its end; one digit is kept. -/
def trim (expansion : Expansion) : Expansion :=
  match (expansion.digits.reverse.dropWhile (· = '0')).reverse with
  | [] => { expansion with digits := expansion.digits.take 1 }
  | digits => { expansion with digits }

/-- The power of ten that a positive ratio has reached, plus one: the place of the point
before its first digit. -/
def pointOf (numerator denominator : Nat) : Int :=
  let estimate : Int := (decimalDigits numerator).length - (decimalDigits denominator).length
  let reached :=
    if 0 ≤ estimate then decide (denominator * powerOfTen estimate.toNat ≤ numerator)
    else decide (denominator ≤ numerator * powerOfTen (-estimate).toNat)
  if reached then estimate + 1 else estimate

/-- A positive ratio counted in units of ten to the power `place`, as a ratio. -/
def unitsAt (numerator denominator : Nat) (place : Int) : Nat × Nat :=
  if 0 ≤ place then (numerator, denominator * powerOfTen place.toNat)
  else (numerator * powerOfTen (-place).toNat, denominator)

/-- A ratio to a number of significant digits, which is at least one. Zero has as many
zeros. -/
def significant (numerator denominator count : Nat) : Expansion :=
  if numerator = 0 then { digits := List.replicate count '0', point := 1 }
  else
    let point := pointOf numerator denominator
    let (units, whole) := unitsAt numerator denominator (point - count)
    let rounded := roundHalfEven units whole
    if rounded = powerOfTen count then
      { digits := decimalDigits (rounded / 10), point := point + 1 }
    else { digits := decimalDigits rounded, point }

/-! ### The shortest expansion -/

/-- Twice the ends of the interval of the numbers that round to a number of the format,
over one denominator with the number itself: the lower end, the number and the upper end. Below
a power of two the neighbours are nearer, except at the least exponent. -/
def roundingInterval (significand : Nat) (exponent : Int) : Nat × Nat × Nat × Nat :=
  let (scale, denominator) := Binary64.ratio 1 exponent
  let lower :=
    if significand = powerOfTwo (Binary64.precision - 1) ∧ Binary64.minExponent < exponent then
      4 * significand - 1
    else 4 * significand - 2
  (lower * scale, 4 * significand * scale, (4 * significand + 2) * scale, 4 * denominator)

/-- The expansion with a number of digits that reads back as the number, if there is one:
the nearer of the two grid points around the number, if both do; of two that are equally
near, the even one. -/
def ofLength? (significand : Nat) (exponent : Int) (count : Nat) : Option Expansion :=
  let (lower, middle, upper, denominator) := roundingInterval significand exponent
  let point := pointOf middle denominator
  let place := point - count
  let (units, whole) := unitsAt middle denominator place
  let below := units / whole
  let readsBack (candidate : Nat) : Bool :=
    let value := if 0 ≤ place then candidate * powerOfTen place.toNat * denominator
      else candidate * denominator
    let scale := if 0 ≤ place then 1 else powerOfTen (-place).toNat
    if significand % 2 = 0 then decide (lower * scale ≤ value) && decide (value ≤ upper * scale)
    else decide (lower * scale < value) && decide (value < upper * scale)
  let nearest := roundHalfEven units whole
  let other := if nearest = below then below + 1 else below
  let found :=
    if readsBack nearest then some nearest
    else if readsBack other then some other
    else none
  found.map fun candidate =>
    if candidate = powerOfTen count then
      { digits := decimalDigits (candidate / 10), point := point + 1 }
    else { digits := decimalDigits candidate, point }

/-- The shortest expansion of a number of the double format. -/
def shortest (significand : Nat) (exponent : Int) : Expansion :=
  if significand = 0 then zero
  else
    let lengths := (List.range 17).map (· + 1)
    ((lengths.findSome? (ofLength? significand exponent)).getD zero).trim

end Expansion

/-! ### Numerals -/

/-- A number laid out for writing, without its sign. -/
structure Numeral where
  whole : List Char
  fraction : List Char
  exponent : Option Int := none
  deriving DecidableEq, Repr, Inhabited

namespace Numeral

/-- A text filled up with zeros at its end. -/
def padEnd (digits : List Char) (length : Nat) : List Char :=
  digits ++ List.replicate (length - digits.length) '0'

/-- An expansion laid out with its point where it belongs, and at least as many places as
asked for. -/
def positional (expansion : Expansion) (places : Nat) : Numeral :=
  if expansion.point ≤ 0 then
    { whole := ['0']
      fraction :=
        padEnd (List.replicate (-expansion.point).toNat '0' ++ expansion.digits) places }
  else
    let point := expansion.point.toNat
    { whole := (padEnd expansion.digits point).take point
      fraction := padEnd (expansion.digits.drop point) places }

/-- An expansion laid out with one digit before the point, at least as many places as asked
for, and an exponent. -/
def scientific (expansion : Expansion) (places : Nat) : Numeral where
  whole := expansion.digits.take 1
  fraction := padEnd (expansion.digits.drop 1) places
  exponent := some (expansion.point - 1)

/-- A ratio to a fixed number of places. -/
def fixed (numerator denominator places : Nat) : Numeral :=
  let rounded := roundHalfEven (numerator * powerOfTen places) denominator
  let fraction := decimalDigits (rounded % powerOfTen places)
  { whole := decimalDigits (rounded / powerOfTen places)
    fraction :=
      if places = 0 then [] else List.replicate (places - fraction.length) '0' ++ fraction }

/-- Every digit of the numeral is zero. -/
def isZero (numeral : Numeral) : Bool :=
  numeral.whole.all (· = '0') && numeral.fraction.all (· = '0')

/-- The exponent behind its mark: a sign and at least two digits. -/
def exponentText (mark : Char) (exponent : Int) : List Char :=
  let digits := decimalDigits exponent.natAbs
  let sign := if exponent < 0 then '-' else '+'
  mark :: sign :: (List.replicate (2 - digits.length) '0' ++ digits)

/-- What is written behind the point. -/
def tail (numeral : Numeral) (mark : Char) : List Char :=
  numeral.fraction ++
    match numeral.exponent with
    | none => []
    | some exponent => exponentText mark exponent

/-- A point is written where places follow it, or where it is asked for. -/
def hasPoint (numeral : Numeral) (always : Bool) : Bool := always || !numeral.fraction.isEmpty

/-- The text of a numeral. -/
def text (numeral : Numeral) : String :=
  String.ofList (numeral.whole ++ (if numeral.hasPoint false then ['.'] else []) ++
    numeral.tail 'e')

end Numeral

/-! ### The text of a number of the double format -/

namespace Binary64

/-- The shortest numeral of a finite number: an exponent is written for magnitudes below
ten to the power of -4 and from ten to the power of 16, and elsewhere at least one place. -/
def shortestNumeral (significand : Nat) (exponent : Int) : Numeral :=
  let expansion := Expansion.shortest significand exponent
  if expansion.point ≤ -4 ∨ 16 < expansion.point then .scientific expansion 0
  else .positional expansion 1

/-- The text of a number: the shortest numeral that reads back, or the word for what has
none. -/
def text : Binary64 → String
  | .nan => "nan"
  | .infinite negative => if negative then "-inf" else "inf"
  | .finite negative significand exponent =>
    (if negative then "-" else "") ++ (shortestNumeral significand exponent).text

end Binary64

end Stencil.Number
