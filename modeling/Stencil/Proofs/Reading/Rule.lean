/-
This file holds rules for the productions that read a template, and what follows for a
production that a rule governs.

A rule is said of texts alone: which words are read as which value, in front of which rest, and
behind which words the text is at fault. A production is governed by a rule when it does what
the rule says of each text, and when it is absent wherever the rule says nothing. So what a
governed production does is decided by what is ahead, and the position of its cursor comes back
in its answer and decides nothing.
-/

import Stencil.Tag

namespace Stencil

/-- What is said of the texts that a production reads. -/
structure Rule (α : Type) where
  /-- A word is read as a value in front of a rest. -/
  reads : α → List Char → List Char → Prop
  /-- Behind a word and in front of a rest, the text is at fault. -/
  fails : ParseErrorKind → List String → List Char → List Char → Prop

namespace Rule

variable {α : Type}

/-- A production does what a rule says of the text ahead, and is absent where the rule says
nothing. -/
structure Governs (rule : Rule α) (production : Cursor → Reading α) : Prop where
  read_of : ∀ {cursor : Cursor} {value : α} {word rest : List Char},
    cursor.ahead = word ++ rest → rule.reads value word rest →
      production cursor = .ok (some (value, cursor.past word rest))
  fault_of : ∀ {cursor : Cursor} {kind : ParseErrorKind} {details : List String}
    {word rest : List Char}, cursor.ahead = word ++ rest → rule.fails kind details word rest →
      production cursor = .error ((cursor.past word rest).fault kind details)
  covers : ∀ cursor : Cursor, production cursor = .ok none ∨
    (∃ value word rest, cursor.ahead = word ++ rest ∧ rule.reads value word rest) ∨
    ∃ kind details word rest, cursor.ahead = word ++ rest ∧ rule.fails kind details word rest

namespace Governs

variable {rule : Rule α} {production : Cursor → Reading α}

/-- Where a production is not absent, the rule says what it does. -/
theorem exists_of_ne_none (governs : rule.Governs production) {cursor : Cursor}
    (present : production cursor ≠ .ok none) :
    (∃ value word rest, cursor.ahead = word ++ rest ∧ rule.reads value word rest) ∨
      ∃ kind details word rest, cursor.ahead = word ++ rest ∧ rule.fails kind details word rest :=
  (governs.covers cursor).resolve_left present

end Governs

end Rule

end Stencil
