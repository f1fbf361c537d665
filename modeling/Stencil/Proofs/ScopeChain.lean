/-
This file gives the look-up of names as one recursion over a name and a stack of scopes.

`Scopes.lookup` follows a name into the innermost scope as far as it goes and only then turns
to the scope behind it. The recursion here takes one segment at a time: a list or a map that
knows the segment is replaced by what was found, and a scope that does not know it is dropped,
with what is left of the name kept. Both give one answer, also where an index is bad.
-/

import Stencil.Lookup

namespace Stencil

namespace Scopes

/-- Looks the segments of a name up one by one. What is found takes the place of the scope in
which it was found; a scope that has no parts, or no part of this name, is left for the next
one further out. -/
def seek (segments : List String) (scopes : Scopes) : Except LookupError Value :=
  match scopes, segments with
  | [], _ => .ok .nil
  | scope :: _, [] => .ok scope
  | .list items :: outer, segment :: rest =>
    match parseIndex segment with
    | .error error => .error error
    | .ok index =>
      if inside : index < items.length then seek rest (items[index] :: outer)
      else .error (.outOfBounds index items.length)
  | .map entries :: outer, segment :: rest =>
    match Entries.find? entries segment with
    | some value => seek rest (value :: outer)
    | none => seek (segment :: rest) outer
  | .nil :: outer, segment :: rest => seek (segment :: rest) outer
  | .bool _ :: outer, segment :: rest => seek (segment :: rest) outer
  | .string _ :: outer, segment :: rest => seek (segment :: rest) outer
  | .formattable _ :: outer, segment :: rest => seek (segment :: rest) outer
  termination_by segments.length + scopes.length

/-- Following a name into a scope and then looking on further out is looking it up segment by
segment. -/
theorem lookup_eq_seek (segments : List String) (scopes : Scopes) :
    scopes.lookup segments = scopes.seek segments := by
  fun_induction seek segments scopes with
  | case1 => rfl
  | case2 => simp [lookup, Value.follow]
  | case3 items outer segment rest error bad => simp [lookup, Value.follow, bad]
  | case4 items outer segment rest index read inside inductionHypothesis =>
    rw [← inductionHypothesis]
    simp [lookup, Value.follow, read, inside]
  | case5 items outer segment rest index read outside =>
    simp [lookup, Value.follow, read, outside]
  | case6 entries outer segment rest value found inductionHypothesis =>
    rw [← inductionHypothesis]
    simp [lookup, Value.follow, found]
  | case7 entries outer segment rest missing inductionHypothesis =>
    rw [← inductionHypothesis]
    simp [lookup, Value.follow, missing]
  | case8 _ _ _ inductionHypothesis | case9 _ _ _ _ inductionHypothesis
  | case10 _ _ _ _ inductionHypothesis | case11 _ _ _ _ inductionHypothesis =>
    rw [← inductionHypothesis]
    simp [lookup, Value.follow]

end Scopes

end Stencil
