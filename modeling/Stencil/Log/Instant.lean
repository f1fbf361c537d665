/-
This file holds instants of time and writes them as dates with a time of day.

An instant is a number of whole seconds since the beginning of 1970, and of millionths of a
second behind them. A number of the double format is taken for an instant by rounding its
fraction to millionths, of two that are equally near to the even one; a fraction of a
negative number counts back from the next second. Dates follow the Gregorian rule in both
directions, and only the years from 1 to 9999 are written. The time of day is written to
the thousandth of a second that has been reached.
-/

import Stencil.Number.Decimal

namespace Stencil.Log

/-! ### Dates -/

/-- A date of the Gregorian calendar. -/
structure Date where
  year : Int
  month : Nat
  day : Nat
  deriving DecidableEq, Repr

namespace Date

/-- The date that lies a number of days behind the first of January 1970. The days are counted
in cycles of 400 years that begin with a first of March, so that the leap day is the last of
its year. -/
def ofDays (days : Int) : Date :=
  let shifted := days + 719468
  let cycle := shifted / 146097
  let dayOfCycle := (shifted % 146097).toNat
  let yearOfCycle :=
    (dayOfCycle - dayOfCycle / 1460 + dayOfCycle / 36524 - dayOfCycle / 146096) / 365
  let dayOfYear := dayOfCycle - (365 * yearOfCycle + yearOfCycle / 4 - yearOfCycle / 100)
  let monthOfYear := (5 * dayOfYear + 2) / 153
  let day := dayOfYear - (153 * monthOfYear + 2) / 5 + 1
  let month := if monthOfYear < 10 then monthOfYear + 3 else monthOfYear - 9
  let year := cycle * 400 + yearOfCycle
  { year := if month ≤ 2 then year + 1 else year, month, day }

end Date

/-! ### Instants -/

/-- An instant of time, as whole seconds since the beginning of 1970 and millionths of a second
behind them. -/
structure Instant where
  seconds : Int
  microseconds : Nat
  deriving DecidableEq, Repr

/-- Why a number has no written date. -/
inductive InstantError where
  /-- The number is none. -/
  | notANumber
  /-- The number is beyond the reach of 64 bits. -/
  | outOfReach
  /-- The year is beyond the reach of 32 bits, counted from 1900. -/
  | yearOutOfReach
  /-- The year is not one of those that are written. -/
  | yearOutOfRange (year : Int)
  deriving DecidableEq, Repr

namespace InstantError

/-- The wording of an error. -/
def message : InstantError → String
  | notANumber => "Invalid value NaN (not a number)"
  | outOfReach => "timestamp out of range for platform time_t"
  | yearOutOfReach => "[Errno 75] Value too large for defined data type"
  | yearOutOfRange year => "year " ++ toString year ++ " is out of range"

end InstantError

namespace Instant

/-- The number of millionths in a second. -/
def perSecond : Nat := 1000000

/-- The millionths that a fraction is rounded to, by way of the double format. -/
def roundFraction (numerator denominator : Nat) : Nat :=
  match Number.Binary64.ofRatio false (numerator * perSecond) denominator with
  | .finite _ significand exponent =>
    let (numerator, denominator) := Number.Binary64.ratio significand exponent
    Number.roundHalfEven numerator denominator
  | _ => 0

/-- The instant at a number of seconds, given as a sign, whole seconds and millionths of at most
one second. -/
def ofParts (negative : Bool) (whole millionths : Nat) : Instant :=
  if negative then
    if millionths = 0 then { seconds := -whole, microseconds := 0 }
    else { seconds := -whole - 1, microseconds := perSecond - millionths }
  else if millionths = perSecond then { seconds := whole + 1, microseconds := 0 }
  else { seconds := whole, microseconds := millionths }

/-- The instant that a number of the double format stands for. -/
def ofReal : Number.Binary64 → Except InstantError Instant
  | .nan => .error .notANumber
  | .infinite _ => .error .outOfReach
  | .finite negative significand exponent =>
    let (numerator, denominator) := Number.Binary64.ratio significand exponent
    let instant := ofParts negative (numerator / denominator)
      (roundFraction (numerator % denominator) denominator)
    if -Number.limit64 ≤ instant.seconds ∧ instant.seconds ≤ Number.limit64 then .ok instant
    else .error .outOfReach

/-- A number in decimal digits, filled up with zeros to a length. -/
def padded (length value : Nat) : String :=
  let digits := Number.decimalDigits value
  String.ofList (List.replicate (length - digits.length) '0' ++ digits)

/-- An instant written as a date and a time of day in universal time. -/
def text (instant : Instant) : Except InstantError String :=
  let date := Date.ofDays (instant.seconds / 86400)
  let second := (instant.seconds % 86400).toNat
  let counted := date.year - 1900
  if counted < -Number.limit32 ∨ Number.limit32 ≤ counted then .error .yearOutOfReach
  else if date.year < 1 ∨ 9999 < date.year then
    .error (.yearOutOfRange (date.year.bmod (Number.powerOfTwo 32)))
  else .ok (padded 4 date.year.toNat ++ "-" ++ padded 2 date.month ++ "-" ++ padded 2 date.day ++
    "T" ++ padded 2 (second / 3600) ++ ":" ++ padded 2 (second / 60 % 60) ++ ":" ++
    padded 2 (second % 60) ++ "." ++ padded 3 (instant.microseconds / 1000) ++ "Z")

end Instant

end Stencil.Log
