/-
This file holds log records and the two kinds of line in which they are written.

A record has the logger that it was written to, a level, a message, and a context of plain
data. A plain line has the name of the level and the message. A line in JSON has the
instant, the level, the logger, the message and the version of the library as fields in
this order, and then the context, if it is an object that has fields.
-/

import Stencil.Json
import Stencil.Log.Level

namespace Stencil.Log

/-- A log record. -/
structure Record where
  logger : Logger
  level : Level
  message : String
  context : Json := .null
  deriving Inhabited

/-- The version of the library. -/
def version : String := "0.3.0"

/-- The version that is written where the library does not know its own: the given one, or a word
for none. -/
def fallbackVersion (given : Option String) : String := given.getD "unknown"

namespace Record

/-- A record as a plain line. -/
def plainLine (record : Record) : String := record.level.name ++ ": " ++ record.message

/-- The context of a record as a field of its line. -/
def contextField (record : Record) : List (String × Json) :=
  match record.context with
  | .object (field :: fields) => [("ctx", .object (field :: fields))]
  | _ => []

/-- A record as a line in JSON, at a written instant and by a version of the library. -/
def jsonLine (record : Record) (instant version : String) : String :=
  Json.line (.object ([
    ("ts", .text instant),
    ("level", .text record.level.name),
    ("module", .text record.logger.name),
    ("msg", .text record.message),
    ("version", .text version)] ++ record.contextField))

end Record

end Stencil.Log
