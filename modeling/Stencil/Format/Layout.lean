/-
This file lays values out in fields: padding, the grouping of digits, and the order of the
parts of a number.

A number is written as its sign, the mark of its base, its whole digits, a point and what
follows the point. Only the whole digits are grouped. Where a number is filled up with
zeros behind its sign, the zeros are digits like the others and are grouped with them, so
that the field may come out one character wider than asked for rather than begin with a
separator.
-/

import Stencil.Format.Specification

namespace Stencil

/-- A row of copies of a character. -/
def copies (count : Nat) (character : Char) : List Char := List.replicate count character

/-! ### Memory -/

/-- The memory that fields are laid out in. How wide a field may be depends on the machine, so
all that writes fields has the memory as a parameter. -/
class Memory where
  /-- There is room for a field of a width. -/
  holds (width : Nat) : Bool
  /-- A field without a width asks for no room of its own. -/
  holds_zero : holds 0 = true

namespace Memory

/-- Memory in which there is room for every field. -/
scoped instance unbounded : Memory where
  holds _ := true
  holds_zero := rfl

end Memory

/-! ### Padding -/

/-- A value in a field of a width. An odd share of padding stands behind a centered value. -/
def pad (fill : Char) (alignment : Alignment) (width : Nat) (value : List Char) : List Char :=
  let padding := width - value.length
  match alignment with
  | .left => value ++ copies padding fill
  | .right | .behindSign => copies padding fill ++ value
  | .center => copies (padding / 2) fill ++ value ++ copies (padding - padding / 2) fill

/-! ### Grouping -/

/-- Groups digits from their end, given with the last digit first, and fills them up with
zeros to a width in which separators count. -/
def groupReversed (size : Nat) (positive : 0 < size) (separator : Char) (digits : List Char)
    (width : Nat) : List Char :=
  let length := min size (max (max digits.length width) 1)
  let group := digits.take length ++ copies (length - digits.length) '0'
  let rest := digits.drop length
  if rest = [] ∧ width ≤ length then group
  else group ++ separator :: groupReversed size positive separator rest (width - length - 1)
  termination_by digits.length + width
  decreasing_by
    rename_i more
    rw [List.drop_eq_nil_iff] at more
    rw [List.length_drop]
    omega

/-- The whole digits of a number in groups, filled up with zeros to a width. -/
def groupDigits (size : Nat) (positive : 0 < size) (separator : Char) (digits : List Char)
    (width : Nat) : List Char :=
  (groupReversed size positive separator digits.reverse width).reverse

/-! ### Numbers -/

/-- A number in the parts in which it is written. -/
structure NumberParts where
  negative : Bool := false
  /-- The mark of the base, if it is written. -/
  mark : List Char := []
  /-- The whole digits; a number that is written as a word or a character has none. -/
  whole : List Char := []
  point : Bool := false
  /-- What follows the point, or the whole text of a number without whole digits. -/
  behind : List Char := []
  deriving DecidableEq, Repr

/-- What is written for the sign of a number. -/
def signText (rule : Option SignRule) (negative : Bool) : List Char :=
  if negative then ['-']
  else
    match rule with
    | some .always => ['+']
    | some .spaced => [' ']
    | some .negativeOnly | none => []

/-- The number of digits in a group of a presentation. -/
def groupSize (code : Char) : Nat := if Specification.groupsFours code then 4 else 3

theorem groupSize_pos (code : Char) : 0 < groupSize code := by
  unfold groupSize
  split <;> decide

namespace Specification

/-- The whole digits of a number, grouped as a specification says and filled up with zeros
to a width. A number without whole digits gets none. -/
def wholeDigits (specification : Specification) (digits : List Char) (width : Nat) : List Char :=
  if digits = [] then []
  else
    match specification.separator with
    | none => copies (width - digits.length) '0' ++ digits
    | some separator =>
      groupDigits (groupSize specification.code) (groupSize_pos _) separator.char digits width

/-- A number laid out as a specification says. -/
def layoutNumber (specification : Specification) (parts : NumberParts) : List Char :=
  let sign := signText specification.sign parts.negative
  let behind := (if parts.point then ['.'] else []) ++ parts.behind
  let width := specification.width.getD 0
  let around := sign.length + parts.mark.length + behind.length
  let zeros :=
    if specification.fill = '0' ∧ specification.alignment = .behindSign then width - around else 0
  let whole := specification.wholeDigits parts.whole zeros
  let body := parts.mark ++ padding (width - around - whole.length) ++ whole ++ behind
  if specification.alignment = .behindSign then sign ++ body
  else pad specification.fill specification.alignment width (sign ++ body)
where
  /-- The padding between the sign and the digits. -/
  padding (count : Nat) : List Char :=
    if specification.alignment = .behindSign then copies count specification.fill else []

end Specification

end Stencil
