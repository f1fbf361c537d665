/-
This file holds the pair of delimiters between which a tag stands.

Both delimiters are texts of the template's own choice and neither is empty: an empty
opening delimiter would begin a tag at every place of a text, and an empty closing one
would end it nowhere. The type admits no other pair, so that a reader of tags always
moves on.
-/

namespace Stencil

/-- The text that opens a tag and the text that closes it; neither is empty. -/
structure Delimiters where
  opening : List Char
  closing : List Char
  opening_ne_nil : opening ≠ [] := by decide
  closing_ne_nil : closing ≠ [] := by decide
  deriving DecidableEq, Repr

namespace Delimiters

/-- The delimiters in force until a template chooses others: two braces on either side. -/
def standard : Delimiters where
  opening := ['\x7b', '\x7b']
  closing := ['\x7d', '\x7d']

instance : Inhabited Delimiters := ⟨standard⟩

/-- The pair of two texts, unless one of them is empty. -/
def ofTexts? (opening closing : List Char) : Option Delimiters :=
  if present : opening ≠ [] ∧ closing ≠ [] then
    some { opening, closing, opening_ne_nil := present.1, closing_ne_nil := present.2 }
  else none

/-- The pair of two strings, unless one of them is empty. -/
def ofStrings? (opening closing : String) : Option Delimiters :=
  ofTexts? opening.toList closing.toList

/-- What opens an instruction to the reader of the template. -/
def instructionOpening (delimiters : Delimiters) : List Char := delimiters.opening ++ ['=']

/-- What closes an instruction to the reader of the template. -/
def instructionClosing (delimiters : Delimiters) : List Char := '=' :: delimiters.closing

end Delimiters

end Stencil
