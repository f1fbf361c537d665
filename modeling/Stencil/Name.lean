/-
This file holds names, the dotted paths by which a tag addresses a value.

A name with no segments addresses the innermost value itself and is written as a single
dot. Every other name is written as its segments with dots between them, so a segment
never holds a dot when the name was read from its written form.
-/

namespace Stencil

/-- The path from a value to the part that is addressed. -/
structure Name where
  segments : List String := []
  deriving DecidableEq, Repr, Inhabited

namespace Name

/-- The name of the innermost value itself. -/
def self : Name := {}

/-- A name addresses the innermost value itself. -/
def isSelf (name : Name) : Bool := name.segments.isEmpty

/-- Reads a name from its written form; two dots in a row leave an empty segment. -/
def dotted (path : String) : Name :=
  if path = "." then self else { segments := (path.toList.splitOn '.').map String.ofList }

/-- The written form of a name. -/
protected def toString (name : Name) : String :=
  if name.isSelf then "." else ".".intercalate name.segments

instance : ToString Name := ⟨Name.toString⟩

end Name

end Stencil
