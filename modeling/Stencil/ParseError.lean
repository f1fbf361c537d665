/-
This file holds the ways in which the text of a template can be at fault.

A fault has a kind, the details that its wording speaks of, and the position at which the
reader stood when it was found. The wording of a kind asks for up to two details; a fault
described with fewer is refused, and details that the wording does not ask for are kept
and not spoken of.
-/

import Stencil.Position

namespace Stencil

/-- What is wrong with the text of a template. -/
inductive ParseErrorKind where
  /-- A dot in a name is followed by no segment. -/
  | expectedIdentifier
  /-- A tag, an instruction or a quoted text is not closed; the detail is the closing text. -/
  | expectedClosing
  /-- A tag holds no name. -/
  | expectedName
  /-- A colon in a tag is followed by no quoted text. -/
  | expectedFormatString
  /-- A section is closed under another name; the details are the name found and the name
  expected. -/
  | mismatchedSectionEnd
  /-- The text ends inside a section; the detail is its name. -/
  | missingSectionEnd
  /-- An instruction names no opening delimiter. -/
  | missingOpeningDefinition
  /-- An instruction names no closing delimiter. -/
  | missingClosingDefinition
  deriving DecidableEq, Repr, Inhabited

namespace ParseErrorKind

/-- The wording of a fault. A detail that is missing is left out. -/
def describe (kind : ParseErrorKind) (details : List String) : String :=
  match kind with
  | expectedIdentifier => "Expected an identifier"
  | expectedClosing => "Expected closing delimiter \"" ++ details.getD 0 "" ++ "\""
  | expectedName => "Expected a name"
  | expectedFormatString => "Expected a quoted format string"
  | mismatchedSectionEnd =>
    "Mismatched section end: expected \"/" ++ details.getD 1 "" ++ "\", found \"/" ++
      details.getD 0 "" ++ "\""
  | missingSectionEnd => "Section \"" ++ details.getD 0 "" ++ "\" was never closed"
  | missingOpeningDefinition => "Missing a definition for the start delimiter"
  | missingClosingDefinition => "Missing a definition for the end delimiter"

/-- The number of details that the wording of a fault asks for. -/
def detailCount : ParseErrorKind → Nat
  | expectedClosing | missingSectionEnd => 1
  | mismatchedSectionEnd => 2
  | expectedIdentifier | expectedName | expectedFormatString | missingOpeningDefinition
  | missingClosingDefinition => 0

/-- The first detail that the wording asks for and does not find; the wording of a section
closed under another name speaks of its second detail first. -/
def missingDetail? (kind : ParseErrorKind) (details : List String) : Option Nat :=
  if details.length < kind.detailCount then some (kind.detailCount - 1) else none

end ParseErrorKind

/-- A fault in the text of a template, with the place at which it was found. -/
structure ParseError where
  kind : ParseErrorKind
  position : Position
  details : List String := []
  deriving DecidableEq, Repr, Inhabited

namespace ParseError

/-- The fault of a kind, unless its wording asks for a detail that is not given; then the
number of that detail. -/
def ofDetails (kind : ParseErrorKind) (position : Position) (details : List String) :
    Except Nat ParseError :=
  match kind.missingDetail? details with
  | some number => .error number
  | none => .ok { kind, position, details }

/-- The wording of a fault, followed by its position in parentheses. -/
def message (error : ParseError) : String :=
  error.kind.describe error.details ++ " (" ++ error.position.toString ++ ")"

end ParseError

end Stencil
