/-
This file holds the ways in which an operation on templates can fail, and the runs of such
operations.

A run gives a result or one failure, and the events that happened until then, in order.
The events never have a part in the result.
-/

import Stencil.Datum
import Stencil.Event
import Stencil.Files.Source

namespace Stencil

/-- Why an operation on templates fails. -/
inductive Failure where
  /-- One of the delimiters that were given is empty. -/
  | emptyDelimiters
  /-- The text of a template is at fault. -/
  | parse (error : ParseError)
  /-- The data that were given have no value. -/
  | refused (refusal : Datum.Refusal)
  /-- The template asks of the value what it does not offer. -/
  | render (error : RenderError)
  /-- The text of a template cannot be read. -/
  | read (error : Files.ReadError)
  deriving DecidableEq, Repr

namespace Failure

/-- The wording of a failure. -/
def message : Failure → String
  | emptyDelimiters => "delimiters must be non-empty"
  | parse error => error.message
  | refused refusal => refusal.message
  | render error => error.message
  | read error => error.message

end Failure

/-- What an operation comes to: its result or its failure, and the events until then. -/
structure Run (α : Type) where
  outcome : Except Failure α
  events : List Event := []

/-- The delimiters of two strings. -/
def Delimiters.ofStrings (opening closing : String) : Except Failure Delimiters :=
  match ofStrings? opening closing with
  | none => .error .emptyDelimiters
  | some delimiters => .ok delimiters

end Stencil
