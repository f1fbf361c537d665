/-
This file holds the powers of two and of ten, which the numerals and the limits of numbers
are counted in, and the limit of digits.
-/

namespace Stencil.Number

/-- A power of two. -/
def powerOfTwo (exponent : Nat) : Nat := Nat.pow 2 exponent

/-- A power of ten. -/
def powerOfTen (exponent : Nat) : Nat := Nat.pow 10 exponent

theorem powerOfTwo_pos (exponent : Nat) : 0 < powerOfTwo exponent :=
  Nat.pow_pos (by decide)

/-- Where the whole numbers of 32 bits with a sign end. -/
def limit32 : Int := powerOfTwo 31

/-- Where the whole numbers of 64 bits with a sign end. -/
def limit64 : Int := powerOfTwo 63

/-- The greatest number of decimal digits of an integer that is read or written. -/
def maxDigits : Nat := 4300

/-- The wording for more digits, with what is told of the integer. -/
def maxDigitsMessage (told : String) : String :=
  "Exceeds the limit (" ++ toString maxDigits ++ " digits) for integer string conversion" ++ told ++
    "; use sys.set_int_max_str_digits() to increase the limit"

end Stencil.Number
