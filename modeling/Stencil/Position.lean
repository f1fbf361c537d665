/-
This file holds positions in a text: the line and the column of a character.

Lines count from one and columns from zero. Only the line feed ends a line; it moves to
column zero of the next line, and every other character moves one column on, whatever
its width on a screen. A text may be a part of something larger: its first character has the
position that it is given, and lines and columns count on from there, also from below zero.
-/

namespace Stencil

/-- A line, counted from one, and a column, counted from zero. -/
structure Position where
  line : Int := 1
  column : Int := 0
  deriving DecidableEq, Repr, Inhabited

namespace Position

/-- The position of the first character of a text. -/
def start : Position := {}

/-- The position behind a character that stands at a position. -/
def step (position : Position) (character : Char) : Position :=
  if character = '\n' then { line := position.line + 1, column := 0 }
  else { line := position.line, column := position.column + 1 }

/-- The position behind a text that begins at a position. -/
def after (position : Position) (text : List Char) : Position :=
  text.foldl step position

/-- A position is written as its line, a colon and its column. -/
protected def toString (position : Position) : String :=
  toString position.line ++ ":" ++ toString position.column

instance : ToString Position := ⟨Position.toString⟩

@[simp] theorem after_nil (position : Position) : position.after [] = position := rfl

@[simp] theorem after_cons (position : Position) (character : Char) (text : List Char) :
    position.after (character :: text) = (position.step character).after text := rfl

theorem after_append (position : Position) (first second : List Char) :
    position.after (first ++ second) = (position.after first).after second := by
  simp [after, List.foldl_append]

theorem line_after (position : Position) (text : List Char) :
    (position.after text).line = position.line + text.count '\n' := by
  induction text generalizing position with
  | nil => simp
  | cons character text inductionHypothesis =>
    rw [after_cons, inductionHypothesis, step]
    split
    · rename_i newline
      subst newline
      simp only [List.count_cons_self]
      omega
    · rename_i other
      rw [List.count_cons_of_ne other]

end Position

end Stencil
