/-
This file proves that the positions in a text tell its places apart.

The position of a place is a fold over the text in front of it. Read off the text at once, its
line counts the line feeds in front of the place, and its column the characters behind the last
of them. Reading on always changes the position: a line feed moves it down for good, and without
one the column grows. So two places of a text with one position are the same place.
-/

import Stencil.Position

namespace Stencil

namespace Position

/-- The position of an offset in a text: its line is one more than the number of line feeds in
front of it, and its column is the number of characters between the last of them, or the start
of the text, and the offset. -/
def ofOffset (text : List Char) (offset : Nat) : Position where
  line := 1 + (text.take offset).count '\n'
  column := ((text.take offset).reverse.takeWhile (· ≠ '\n')).length

theorem start_after_reverse (text : List Char) :
    start.after text.reverse =
      { line := 1 + text.count '\n', column := (text.takeWhile (· ≠ '\n')).length } := by
  induction text with
  | nil => rfl
  | cons character text inductionHypothesis =>
    rw [List.reverse_cons, after_append, inductionHypothesis, after_cons, after_nil, step]
    split
    · rename_i newline
      subst newline
      rw [List.count_cons_self, List.takeWhile_cons_of_neg (by simp)]
      simp only [List.length_nil, mk.injEq]
      omega
    · rename_i other
      rw [List.count_cons_of_ne other, List.takeWhile_cons_of_pos (by simpa using other)]
      rfl

theorem ofOffset_eq_after (text : List Char) (offset : Nat) :
    ofOffset text offset = start.after (text.take offset) := by
  have reversed := start_after_reverse (text.take offset).reverse
  rw [List.reverse_reverse, List.count_reverse] at reversed
  exact reversed.symm

theorem column_after_of_not_mem {text : List Char} (position : Position) (absent : '\n' ∉ text) :
    (position.after text).column = position.column + text.length := by
  induction text generalizing position with
  | nil => simp
  | cons character text inductionHypothesis =>
    obtain ⟨other, absent⟩ := List.ne_and_not_mem_of_not_mem_cons absent
    rw [after_cons, inductionHypothesis _ absent, step, if_neg (Ne.symm other), List.length_cons]
    simp only
    omega

/-- Reading on changes the position. -/
theorem after_eq_self_iff {position : Position} {text : List Char} :
    position.after text = position ↔ text = [] := by
  constructor
  · intro stays
    have line := line_after position text
    rw [stays] at line
    have absent : '\n' ∉ text := List.count_eq_zero.mp (by omega)
    have column := column_after_of_not_mem position absent
    rw [stays] at column
    exact List.eq_nil_of_length_eq_zero (by omega)
  · rintro rfl
    rfl

/-- Two offsets of a text with one position are equal. -/
theorem ofOffset_inj {text : List Char} {first second : Nat} (firstInside : first ≤ text.length)
    (secondInside : second ≤ text.length) :
    ofOffset text first = ofOffset text second ↔ first = second := by
  have ordered {first second : Nat} (inside : second ≤ text.length) (before : first ≤ second)
      (same : ofOffset text first = ofOffset text second) : first = second := by
    have split : text.take second = text.take first ++ (text.drop first).take (second - first) := by
      rw [← List.take_add, Nat.add_sub_cancel' before]
    rw [ofOffset_eq_after, ofOffset_eq_after, split, after_append] at same
    have lengths := congrArg List.length (after_eq_self_iff.mp same.symm)
    rw [List.length_take, List.length_drop, List.length_nil] at lengths
    omega
  refine ⟨fun same => ?_, congrArg _⟩
  rcases Nat.le_total first second with before | behind
  · exact ordered secondInside before same
  · exact (ordered firstInside behind same.symm).symm

/-- The position behind the beginning of a text is that of one offset, its length. -/
theorem ofOffset_eq_after_iff {before rest : List Char} {offset : Nat}
    (inside : offset ≤ (before ++ rest).length) :
    ofOffset (before ++ rest) offset = start.after before ↔ offset = before.length := by
  have behind : ofOffset (before ++ rest) before.length = start.after before := by
    rw [ofOffset_eq_after, List.take_left]
  rw [← behind, ofOffset_inj inside (List.prefix_append _ _).length_le]

end Position

end Stencil
