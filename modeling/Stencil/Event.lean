/-
This file holds the events of the library and the log records that they are written as.

Everything that is told about a run is an event: what compiling and rendering noticed on
their way, and which of them failed where. Runs give their events as a list, and settings
choose which of them are written: those whose logger is governed by the base and whose level
passes there, and of these the ones that trace the walk of the renderer only where tracing
is on. So settings have no part in what a run computes.
-/

import Stencil.Compile
import Stencil.Log.Hierarchy
import Stencil.Log.Record
import Stencil.Render

namespace Stencil

/-- What is told about a run. -/
inductive Event where
  /-- A template was compiled to a number of trees. -/
  | compiled (count : Nat)
  /-- A template chose other delimiters. -/
  | redelimited (change : DelimiterChange)
  /-- The renderer looked a name up or set a format. -/
  | rendered (event : RenderEvent)
  /-- A template file was compiled to a number of trees. -/
  | loaded (path : String) (count : Nat)
  /-- A template file could not be compiled. -/
  | loadFailed (path : String) (error : ParseError)
  /-- An engine could not compile a template. -/
  | engineCompileFailed (logger : Log.Logger) (error : ParseError)
  /-- The template that an engine could not compile came from a file. -/
  | engineFileFailed (logger : Log.Logger) (path : String)
  /-- An engine could not render a template. -/
  | engineRenderFailed (logger : Log.Logger) (label : String) (error : RenderError)
  deriving DecidableEq, Repr

namespace RenderEvent

/-- An event traces the walk of the renderer. -/
def isTrace : RenderEvent → Bool
  | .section .. | .insert .. => true
  | formatSet .. => false

/-- The context of an event: the fields of what it traces. -/
def context : RenderEvent → Json
  | .section name kind inverted =>
    .object [("name", .text name), ("kind", .text kind), ("inverted", .bool inverted)]
  | .insert name kind => .object [("name", .text name), ("kind", .text kind)]
  | formatSet .. => .null

/-- The wording of an event. -/
def message (event : RenderEvent) : String :=
  match event with
  | .section .. => "section | ctx=" ++ event.context.described
  | .insert .. => "insert | ctx=" ++ event.context.described
  | formatSet typeName format => "format for " ++ typeName ++ " set to " ++ Text.quoted format

end RenderEvent

namespace DelimiterChange

/-- The wording of a change of delimiters. -/
def message (change : DelimiterChange) : String :=
  "delimiters reassigned " ++ written change.old.opening ++ " " ++ written change.old.closing ++
    " -> " ++ written change.new.opening ++ " " ++ written change.new.closing ++
    " at " ++ change.position.toString
where
  /-- A delimiter in quotes. -/
  written (delimiter : List Char) : String := String.ofList (Text.quote delimiter)

end DelimiterChange

namespace Event

/-- An event traces the walk of the renderer. -/
def isTrace : Event → Bool
  | rendered event => event.isTrace
  | _ => false

/-- The record that an event is written as. -/
def record : Event → Log.Record
  | compiled count =>
    { logger := .compiling, level := Log.Level.debug,
      message := "compiled template: " ++ toString count ++ " top-level tokens" }
  | redelimited change =>
    { logger := .compiling, level := Log.Level.debug, message := change.message }
  | rendered event =>
    { logger := .rendering, level := Log.Level.debug, message := event.message,
      context := event.context }
  | loaded path count =>
    { logger := .loading, level := Log.Level.debug,
      message := "loaded template " ++ path ++ " (" ++ toString count ++ " tokens)" }
  | loadFailed path error =>
    { logger := .loading, level := Log.Level.error,
      message := "failed to parse template " ++ path ++ ": " ++ error.message }
  | engineCompileFailed logger error =>
    { logger, level := Log.Level.error,
      message := "template compilation failed: " ++ error.message,
      context := .object [
        ("line", .integer error.position.line), ("column", .integer error.position.column)] }
  | engineFileFailed logger path =>
    { logger, level := Log.Level.error, message := "in template file " ++ path }
  | engineRenderFailed logger label error =>
    { logger, level := Log.Level.error,
      message := "template rendering failed for " ++ label ++ ": " ++ error.message }

end Event

/-! ### Which events are written -/

/-- Which events are written: the level that is set at the base of all loggers, whether the walk
of the renderer is traced, and the loggers that there are beside those of the library. -/
structure EventFilter where
  level : Log.Level := Log.Level.unset
  isTracing : Bool := false
  loggers : Log.Hierarchy := .initial
  deriving DecidableEq, Repr

namespace EventFilter

/-- A record reaches the base of all loggers and passes there. -/
def passes (filter : EventFilter) (record : Log.Record) : Bool :=
  filter.loggers.isGoverned record.logger &&
    filter.loggers.isEnabled record.logger filter.level record.level

/-- An event is written. -/
def keeps (filter : EventFilter) (event : Event) : Bool :=
  (filter.isTracing || !event.isTrace) && filter.passes event.record

/-- The records that are written of a list of events, in their order. -/
def records (filter : EventFilter) (events : List Event) : List Log.Record :=
  (events.filter filter.keeps).map Event.record

end EventFilter

end Stencil
