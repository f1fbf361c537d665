/-
This file holds the blank characters, the ones that may stand between the parts of a tag.

The set is wider than that of the core library: it has the separators of every script and
the four information separators among the controls. It leaves out the characters of no
width, such as U+200B and U+FEFF.
-/

namespace Stencil.Text

/-- The ranges of the blank characters, in increasing order. -/
def blankRanges : List (Nat × Nat) := [
  (0x9, 0xd), (0x1c, 0x20), (0x85, 0x85), (0xa0, 0xa0), (0x1680, 0x1680), (0x2000, 0x200a),
  (0x2028, 0x2029), (0x202f, 0x202f), (0x205f, 0x205f), (0x3000, 0x3000)]

/-- A blank character may stand between the parts of a tag and has no meaning there. -/
def isBlank (character : Char) : Bool :=
  blankRanges.any fun (first, last) =>
    decide (first ≤ character.toNat) && decide (character.toNat ≤ last)

end Stencil.Text
