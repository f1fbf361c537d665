/-
This file writes lines in JSON for records that are still to be put together.

A record is given by its pattern and arguments and by the moment of its creation, as a
number of seconds. The moment is written first, so of a bad moment and a bad pattern the
moment is reported.
-/

import Stencil.Log.Instant
import Stencil.Log.Message
import Stencil.Log.Record

namespace Stencil.Log

/-- A record that is still to be put together. -/
structure Draft where
  logger : Logger
  level : Level
  pattern : String
  arguments : List Json := []
  context : Json := .null

/-- Why a draft cannot be written. -/
inductive DraftError where
  | instant (error : InstantError)
  | message (fault : MessageFault)
  deriving DecidableEq, Repr

namespace DraftError

/-- The wording of an error. -/
def wording : DraftError → String
  | instant error => error.message
  | message fault => fault.message

end DraftError

namespace Draft

variable [Memory]

/-- The record of a draft, with its arguments filled in. -/
def record (draft : Draft) : Except MessageFault Record :=
  (messageText draft.pattern draft.arguments).map fun message =>
    { logger := draft.logger, level := draft.level, message, context := draft.context }

/-- A draft as a line in JSON, by a version of the library. -/
def jsonLine (draft : Draft) (created : Number.Binary64) (version : String) :
    Except DraftError String :=
  match (Instant.ofReal created).bind Instant.text with
  | .error error => .error (.instant error)
  | .ok instant =>
    match draft.record with
    | .error fault => .error (.message fault)
    | .ok record => .ok (record.jsonLine instant version)

end Draft

end Stencil.Log
