/-
This file holds sessions of logging: what can be asked of the loggers, and what is written.

The base of all loggers begins without a level and without a handler, and passes its records
on. Setting it up for the first time gives it a level and a handler with a stream and stops
the passing on; every further time changes the level and nothing else. A factory of
loggers that has a level sets the base up before it gives its first logger. A record that
passes at its logger is written to the stream of the handler as one line, unless its message
cannot be filled; a logger that is not governed by the base writes nowhere.

A logger is made when it is asked for first. Whether a level passes at a logger is decided
when it is asked first, and stays so until the base is set up again, also where a logger that
is made in between brings the other one under the base. The fields of a trace are named
values beside its logger and its message, and must not take the name of either.
-/

import Stencil.Entries
import Stencil.Log.Hierarchy
import Stencil.Log.Line

namespace Stencil.Log

/-- What the base writes its records with: the stream, by its number, and the kind of line. -/
structure Handler where
  stream : Nat
  isJson : Bool
  deriving DecidableEq, Repr

/-- A factory of loggers. -/
structure Factory where
  isJson : Bool
  /-- The level that the base is set up with; none where it is left alone. -/
  level : Option Level
  stream : Nat
  /-- The base needs no more setting up by this factory. -/
  isConfigured : Bool
  deriving DecidableEq, Repr

/-- Whether a level passes at a logger, as it was decided. -/
structure Decision where
  logger : Logger
  level : Level
  passes : Bool
  deriving DecidableEq, Repr

/-- The state of a session. -/
structure Session where
  level : Level := Level.unset
  propagates : Bool := true
  handler : Option Handler := none
  /-- The loggers that have been asked for. -/
  loggers : Hierarchy := .initial
  /-- What has been decided since the base was set up last. -/
  decisions : List Decision := []
  /-- The factories, by their numbers. -/
  factories : List Factory := []
  /-- The number of streams that have been made. -/
  streams : Nat := 0
  deriving Inhabited

/-- What a session is asked to do. -/
inductive Action where
  /-- Give the logger that a name asks for. -/
  | getLogger (name : Option String)
  /-- Set the base up with a stream of its own. -/
  | setUp (isJson : Bool) (level : Level)
  /-- Make a factory with a stream of its own. -/
  | makeFactory (isJson : Bool) (level : Option Level)
  /-- Give the logger that a name asks a factory for. -/
  | factoryLogger (factory : Nat) (name : Option String)
  /-- Write a record. -/
  | log (draft : Draft)
  /-- Write a trace with fields, where tracing is on. -/
  | trace (setting name : Option String) (message : String) (fields : List (String × Json))

/-- Why a trace is refused: a field has the name of one of its arguments. -/
structure TraceFault where
  argument : String
  deriving DecidableEq, Repr

namespace TraceFault

/-- The names that a field must not have. -/
def arguments : List String := ["logger", "message"]

/-- The fault of the first field that has the name of an argument. -/
def ofFields? (fields : Entries Json) : Option TraceFault :=
  (fields.keys.find? arguments.contains).map fun argument => { argument }

/-- The wording of a fault. -/
def message (fault : TraceFault) : String :=
  "trace_render() got multiple values for argument '" ++ fault.argument ++ "'"

end TraceFault

/-- What an action answers. -/
inductive Answer where
  | nothing
  | logger (name : String)
  | flag (value : Bool)
  | refused (fault : TraceFault)
  deriving DecidableEq, Repr

/-- What an action comes to: the session behind it, its answer, and what it wrote to which
stream. -/
structure Performed where
  session : Session
  answer : Answer := .nothing
  written : List (Nat × String) := []

namespace Session

/-- Sets the base up; if it has a handler it is given the level and nothing else. Nothing is
decided any more. -/
def setUp (session : Session) (isJson : Bool) (level : Level) (stream : Nat) : Session :=
  let session := { session with level, decisions := [] }
  match session.handler with
  | some _ => session
  | none => { session with propagates := false, handler := some { stream, isJson } }

/-- The session in which a logger has been asked for. -/
def make (session : Session) (logger : Logger) : Session :=
  { session with loggers := session.loggers.make logger }

/-- Whether a level passes at a logger, and the session in which it is decided. -/
def decided (session : Session) (logger : Logger) (level : Level) : Bool × Session :=
  match session.decisions.find? fun decision =>
    decision.logger = logger && decision.level = level with
  | some decision => (decision.passes, session)
  | none =>
    let passes := session.loggers.isEnabled logger session.level level
    (passes, { session with decisions := { logger, level, passes } :: session.decisions })

/-- Writes a record that passes to the stream of the handler, if its logger is governed; an
instant is written in its line. -/
def write (session : Session) (instant : String) (record : Record) : List (Nat × String) :=
  match session.handler with
  | none => []
  | some handler =>
    if session.loggers.isGoverned record.logger then
      let line := if handler.isJson then record.jsonLine instant version else record.plainLine
      [(handler.stream, line ++ "\n")]
    else []

variable [Memory]

/-- Writes a draft, if its level passes at its logger. -/
def log (session : Session) (instant : String) (draft : Draft) : Performed :=
  let (passes, session) := session.decided draft.logger draft.level
  match draft.record with
  | .error _ => { session }
  | .ok record => { session, written := if passes then session.write instant record else [] }

/-- The message of a trace. -/
def traceMessage (message : String) (fields : Entries Json) : String :=
  if fields.isEmpty then message else message ++ " | ctx=" ++ (Json.object fields).described

/-- Writes a trace, where tracing is on. -/
def trace (session : Session) (instant : String) (setting : Option String) (logger : Logger)
    (message : String) (fields : Entries Json) : Performed :=
  match TraceFault.ofFields? fields with
  | some fault => { session, answer := .refused fault }
  | none =>
    let answer := Answer.flag (isTracing setting)
    if isTracing setting then
      let pattern := traceMessage message fields
      let draft : Draft := { logger, level := Level.debug, pattern, context := .object fields }
      { session.log instant draft with answer }
    else { session, answer }

/-- Does what a session is asked to do, at a written instant. -/
def perform (session : Session) (instant : String) : Action → Performed
  | .getLogger name =>
    { session := session.make (.named name), answer := .logger (Logger.named name).name }
  | .setUp isJson level =>
    { session := { session.setUp isJson level session.streams with
        streams := session.streams + 1 },
      answer := .logger Logger.baseName }
  | .makeFactory isJson level =>
    let factory := { isJson, level, stream := session.streams, isConfigured := level.isNone }
    { session := { session with
        factories := session.factories ++ [factory], streams := session.streams + 1 } }
  | .factoryLogger number name =>
    let answer := Answer.logger (Logger.named name).name
    let made := session.make (.named name)
    match session.factories[number]? with
    | none => { session := made, answer }
    | some factory =>
      match factory.isConfigured, factory.level with
      | false, some level =>
        let configured := session.factories.set number { factory with isConfigured := true }
        { session := { made.setUp factory.isJson level factory.stream with
            factories := configured },
          answer }
      | _, _ => { session := made, answer }
  | .log draft => (session.make draft.logger).log instant draft
  | .trace setting name message fields =>
    (session.make (.named name)).trace instant setting (.named name) message (.ofPairs fields)

end Session

end Stencil.Log
