/-
This file holds the cursor, a place in a text from which the text is read on.

A cursor is the text that is still ahead, with the index that counts the characters behind it
and the position that it has reached. It is a plain value: a reader that tries one way and
fails goes on from the cursor that it began with, and no work has to be undone. Every move
goes through `past`, which reads a known piece of what is ahead.
-/

import Stencil.Position
import Stencil.Text.Blank

namespace Stencil

/-- A place in a text: what is ahead of it, how much is behind it, and where it stands. The
index of a cursor that begins before the text counts up to zero first. -/
structure Cursor where
  ahead : List Char
  index : Int := 0
  position : Position := .start
  deriving DecidableEq, Repr, Inhabited

namespace Cursor

/-! ### Building and moving -/

/-- The cursor at the start of a text. -/
def ofText (text : List Char) : Cursor := { ahead := text }

/-- The cursor that has read the piece `read` and has `rest` ahead. -/
def past (cursor : Cursor) (read rest : List Char) : Cursor where
  ahead := rest
  index := cursor.index + read.length
  position := cursor.position.after read

/-- The next character, which stays unread. -/
def peek? (cursor : Cursor) : Option Char := cursor.ahead.head?

/-- The next character and the cursor behind it. -/
def next? (cursor : Cursor) : Option (Char × Cursor) :=
  match cursor.ahead with
  | [] => none
  | character :: rest => some (character, cursor.past [character] rest)

/-- Reads as many characters as asked for, or all that are ahead. -/
def advance (cursor : Cursor) (count : Nat) : List Char × Cursor :=
  let read := cursor.ahead.take count
  (read, cursor.past read (cursor.ahead.drop count))

/-- Reads the longest run of characters that a test accepts. -/
def run (cursor : Cursor) (accepts : Char → Bool) : List Char × Cursor :=
  let read := cursor.ahead.takeWhile accepts
  (read, cursor.past read (cursor.ahead.dropWhile accepts))

/-- The cursor behind the blanks that are ahead. -/
def skipBlanks (cursor : Cursor) : Cursor := (cursor.run Text.isBlank).2

/-- The cursor behind a literal that is next, whatever the literal is. -/
def accept? (cursor : Cursor) (literal : List Char) : Option Cursor :=
  if literal.isPrefixOf cursor.ahead then
    some (cursor.past literal (cursor.ahead.drop literal.length))
  else none

end Cursor

/-! ### Finding -/

/-- The number of characters before the first place where a literal begins. An empty
literal begins everywhere, also at the end. -/
def distanceTo? (literal : List Char) : List Char → Option Nat
  | [] => if literal.isEmpty then some 0 else none
  | character :: rest =>
    if literal.isPrefixOf (character :: rest) then some 0
    else (distanceTo? literal rest).map (· + 1)

/-- The characters before the first place where a literal begins, or all of them. -/
def textBefore (literal : List Char) : List Char → List Char
  | [] => []
  | character :: rest =>
    if literal.isPrefixOf (character :: rest) then []
    else character :: textBefore literal rest

/-! ### What moves keep -/

namespace Cursor

@[simp] theorem ahead_past (cursor : Cursor) (read rest : List Char) :
    (cursor.past read rest).ahead = rest := rfl

@[simp] theorem position_past (cursor : Cursor) (read rest : List Char) :
    (cursor.past read rest).position = cursor.position.after read := rfl

/-- Two moves in a row are one move over both pieces. -/
theorem past_past (cursor : Cursor) (first second middle rest : List Char) :
    (cursor.past first middle).past second rest = cursor.past (first ++ second) rest := by
  simp [past, Position.after_append, Int.add_assoc]

theorem skipBlanks_ahead (cursor : Cursor) :
    cursor.skipBlanks.ahead = cursor.ahead.dropWhile Text.isBlank := rfl

/-- Skipping blanks leaves no more ahead than there was. -/
theorem skipBlanks_length_le (cursor : Cursor) :
    cursor.skipBlanks.ahead.length ≤ cursor.ahead.length := by
  rw [skipBlanks_ahead]
  exact (List.dropWhile_sublist _).length_le

/-- What a run reads and what it leaves ahead are together what was ahead. -/
theorem run_length (cursor : Cursor) (accepts : Char → Bool) :
    (cursor.run accepts).1.length + (cursor.run accepts).2.ahead.length = cursor.ahead.length := by
  rw [← List.length_append]
  exact congrArg List.length List.takeWhile_append_dropWhile

/-- A literal that is accepted was next, and the cursor stands behind it. -/
theorem accept?_eq_some {cursor next : Cursor} {literal : List Char}
    (accepted : cursor.accept? literal = some next) :
    ∃ rest, cursor.ahead = literal ++ rest ∧ next = cursor.past literal rest := by
  rw [accept?] at accepted
  split at accepted
  · rename_i begins
    cases accepted
    exact ⟨_, (List.prefix_iff_eq_append.mp (List.isPrefixOf_iff_prefix.mp begins)).symm, rfl⟩
  · cases accepted

end Cursor

end Stencil
