/-
This file holds the digits of the world's scripts.

A decimal digit is one of ten consecutive characters that count from zero to nine; a
width or a precision may be written in any script that has them. Beside these stand the
digits that take no place in a decimal number, such as superscripts and circled digits;
a field whose name is made of digits of either kind is a numbered field. Both sets are
those of version 14 of the Unicode character database.
-/

namespace Stencil.Text

/-! ### The tables -/

/-- The code points of the decimal zeros; each begins a run of ten digits. -/
def decimalZeros : List Nat := [
  0x30, 0x660, 0x6f0, 0x7c0, 0x966, 0x9e6, 0xa66, 0xae6, 0xb66, 0xbe6,
  0xc66, 0xce6, 0xd66, 0xde6, 0xe50, 0xed0, 0xf20, 0x1040, 0x1090, 0x17e0,
  0x1810, 0x1946, 0x19d0, 0x1a80, 0x1a90, 0x1b50, 0x1bb0, 0x1c40, 0x1c50, 0xa620,
  0xa8d0, 0xa900, 0xa9d0, 0xa9f0, 0xaa50, 0xabf0, 0xff10, 0x104a0, 0x10d30, 0x11066,
  0x110f0, 0x11136, 0x111d0, 0x112f0, 0x11450, 0x114d0, 0x11650, 0x116c0, 0x11730, 0x118e0,
  0x11950, 0x11c50, 0x11d50, 0x11da0, 0x16a60, 0x16ac0, 0x16b50, 0x1d7ce, 0x1d7d8, 0x1d7e2,
  0x1d7ec, 0x1d7f6, 0x1e140, 0x1e2f0, 0x1e950, 0x1fbf0]

/-- The ranges of the digits that are not decimal digits. -/
def plainDigitRanges : List (Nat × Nat) := [
  (0xb2, 0xb3), (0xb9, 0xb9), (0x1369, 0x1371), (0x19da, 0x19da), (0x2070, 0x2070),
  (0x2074, 0x2079), (0x2080, 0x2089), (0x2460, 0x2468), (0x2474, 0x247c), (0x2488, 0x2490),
  (0x24ea, 0x24ea), (0x24f5, 0x24fd), (0x24ff, 0x24ff), (0x2776, 0x277e), (0x2780, 0x2788),
  (0x278a, 0x2792), (0x10a40, 0x10a43), (0x10e60, 0x10e68), (0x11052, 0x1105a), (0x1f100, 0x1f10a)]

/-! ### The tests -/

/-- The number that a decimal digit stands for. -/
def decimalValue? (character : Char) : Option Nat :=
  (decimalZeros.find? fun first =>
    decide (first ≤ character.toNat) && decide (character.toNat ≤ first + 9)).map
    (character.toNat - ·)

/-- A digit of any kind, whether or not it can stand in a decimal number. -/
def isDigit (character : Char) : Bool :=
  (decimalValue? character).isSome ||
    plainDigitRanges.any fun (first, last) =>
      decide (first ≤ character.toNat) && decide (character.toNat ≤ last)

/-- A number from zero to nine as a character of the common digits. -/
def digitChar (value : Nat) : Char := Char.ofNat (0x30 + value % 10)

/-- A decimal numeral as its value; the empty numeral is zero. -/
def natOfDigits (numeral : List Char) : Nat :=
  numeral.foldl (fun value character => value * 10 + (character.toNat - 0x30)) 0

end Stencil.Text
