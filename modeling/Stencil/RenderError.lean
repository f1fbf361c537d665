/-
This file holds the errors of rendering.

Most of them say that the template asks of a value what it does not offer. Two do not:
an index with too many digits and a number that is too large for its presentation are
limits of numbers, and they are told apart because they are not reported as failures of
the template.
-/

import Stencil.Format.Fault
import Stencil.Lookup

namespace Stencil

/-- Why a template cannot be rendered against a value. -/
inductive RenderError where
  /-- A name cannot be looked up. -/
  | lookup (error : LookupError)
  /-- A list or a map is inserted. -/
  | cannotInsertCollection (name kind : String)
  /-- A section is inverted over a value that is always there. -/
  | cannotInvertSection (name kind : String)
  /-- A field of a format names nothing that is known of the type. -/
  | unknownPlaceholder (typeName key : String)
  /-- A format is at fault, or asks of a value what it does not offer. -/
  | invalidFormat (typeName format : String) (fault : FormatFault)
  /-- A number is too large for its presentation. -/
  | overflow (cause : NumberOverflow)
  deriving DecidableEq, Repr, Inhabited

namespace RenderError

/-- The wording of an error. -/
def message : RenderError → String
  | lookup error => error.message
  | cannotInsertCollection name kind =>
    "Cannot directly insert " ++ kind ++ " value \"" ++ name ++ "\""
  | cannotInvertSection name kind =>
    "Cannot create inverted sections from " ++ kind ++ " value \"" ++ name ++ "\""
  | unknownPlaceholder typeName key =>
    "Failed to format " ++ typeName ++ ": unknown placeholder \"" ++ key ++ "\""
  | invalidFormat typeName format fault =>
    "Failed to format " ++ typeName ++ " with \"" ++ format ++ "\": " ++ fault.reason
  | overflow cause => cause.message

/-- The error is a limit of numbers and no failure of the template. -/
def isNumberLimit : RenderError → Bool
  | lookup (.indexTooLong _) | overflow _ => true
  | _ => false

/-- The error of a format of a type. -/
def ofFormatError (typeName format : String) : FormatError → RenderError
  | .unknownPlaceholder key => unknownPlaceholder typeName key
  | .malformed fault => invalidFormat typeName format fault
  | .overflow cause => overflow cause

end RenderError

namespace Formattable

variable [Memory]

/-- The text of a value in a format, with the errors of rendering. -/
def render (formattable : Formattable) (format : String) : Except RenderError String :=
  (formattable.format format).mapError (RenderError.ofFormatError formattable.typeName format)

/-- The text of a value in the given format, or else in its own. -/
def renderAs (formattable : Formattable) (format : Option String) : Except RenderError String :=
  formattable.render (format.getD formattable.defaultFormat)

end Formattable

end Stencil
