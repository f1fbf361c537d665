/-
This file brings the ends of lines in a text to one form.

A carriage return ends a line, alone or together with a line feed behind it, and becomes
a line feed. What has this form already is left as it is.
-/

namespace Stencil.Text

/-- A text in which every line ends with a line feed. -/
def unifyNewlines : List Char → List Char
  | [] => []
  | '\r' :: '\n' :: rest => '\n' :: unifyNewlines rest
  | character :: rest =>
    (if character = '\r' then '\n' else character) :: unifyNewlines rest

/-- No carriage return is left. -/
theorem carriageReturn_not_mem_unifyNewlines (text : List Char) :
    '\r' ∉ unifyNewlines text := by
  fun_induction unifyNewlines text with
  | case1 => simp
  | case2 rest inductionHypothesis => simpa using inductionHypothesis
  | case3 character rest _ inductionHypothesis =>
    simp only [List.mem_cons, not_or]
    refine ⟨?_, inductionHypothesis⟩
    split
    · decide
    · rename_i other
      exact Ne.symm other

end Stencil.Text
