/-
This file holds engines, which compile and render templates under one configuration.

A configuration has the delimiters in force at the beginning of a text, formats, and the
logger that failures are told to. An engine begins with the formats of its configuration;
it can be given more, for the templates that it compiles from then on, and the configuration
stays as it is. Every text is compiled into a new template, so what one text sets has no
effect on another. A text that cannot be compiled and a template that cannot be rendered
are told to the logger of the engine; limits of numbers, data without values and files that
cannot be read are not.
-/

import Stencil.Template

namespace Stencil

/-- The configuration of an engine. -/
structure EngineConfig where
  delimiters : Delimiters := .standard
  formats : FormatTable := .empty
  logger : Log.Logger := .engine
  /-- The loggers that were made to choose from. -/
  loggers : Log.Hierarchy := .initial

namespace EngineConfig

/-- The configuration with two strings as delimiters and a list of formats. The logger is the one
that the first of two names asks for, or else the second, or else that of engines. -/
def ofStrings (opening closing : String) (formats : List (String × String))
    (logger configured : Option String) : Except Failure EngineConfig :=
  (Delimiters.ofStrings opening closing).map fun delimiters =>
    { delimiters
      formats := .ofPairs formats
      logger :=
        match logger, configured with
        | some name, _ | none, some name => .named name
        | none, none => .engine
      loggers := .ofNames (logger.toList ++ configured.toList) }

end EngineConfig

/-- An engine: its configuration, and the formats of the templates that it compiles. -/
structure Engine where
  config : EngineConfig
  formats : FormatTable

namespace Engine

/-- The engine of a configuration. -/
def ofConfig (config : EngineConfig) : Engine := { config, formats := config.formats }

/-- The engine with a format for the templates that it compiles from now on. -/
def setFormat (engine : Engine) (typeName format : String) : Engine :=
  { engine with formats := engine.formats.set typeName format }

/-- The template that an engine makes of a text, with the formats of the engine. -/
def compile (engine : Engine) (source : String) : Run Template :=
  let compiled := Template.compile engine.config.delimiters source
  match compiled.outcome with
  | .ok template =>
    { outcome := .ok { template with formats := engine.formats }, events := compiled.events }
  | .error (.parse error) =>
    { compiled with
      events := compiled.events ++ [.engineCompileFailed engine.config.logger error] }
  | .error _ => compiled

/-- What is told when rendering fails. -/
def renderFailureEvents (engine : Engine) (label : String) : Failure → List Event
  | .render error =>
    if error.isNumberLimit then [] else [.engineRenderFailed engine.config.logger label error]
  | _ => []

variable [Memory]

/-- Renders a new template against data; a failure is told under a label. -/
def renderCompiled (engine : Engine) (template : Template) (datum : Datum) (label : String) :
    Run String :=
  let rendered := template.render datum
  let told :=
    match rendered.outcome with
    | .ok _ => []
    | .error failure => engine.renderFailureEvents label failure
  { outcome := rendered.outcome, events := rendered.events ++ told }

/-- The label of a text that comes from no file. -/
def textLabel : String := "<string>"

/-- Compiles a text and renders it against data. -/
def render (engine : Engine) (source : String) (datum : Datum) : Run String :=
  let compiled := engine.compile source
  match compiled.outcome with
  | .error failure => { outcome := .error failure, events := compiled.events }
  | .ok template =>
    let rendered := engine.renderCompiled template datum textLabel
    { rendered with events := compiled.events ++ rendered.events }

/-- Compiles the text of a file and renders it against data. -/
def renderFile (engine : Engine) (files : Files.Tree) (path encoding : String) (datum : Datum) :
    Run String :=
  match Files.readSource files path encoding with
  | .error error => { outcome := .error (.read error) }
  | .ok source =>
    let compiled := engine.compile source
    match compiled.outcome with
    | .error failure =>
      { outcome := .error failure,
        events := compiled.events ++ [.engineFileFailed engine.config.logger path] }
    | .ok template =>
      let rendered := engine.renderCompiled template datum path
      { rendered with events := compiled.events ++ rendered.events }

end Engine

end Stencil
