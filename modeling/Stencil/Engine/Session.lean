/-
This file holds sessions with an engine.

A session has an engine and the collection of the templates that were compiled on their
own. Those keep their tables, which begin as copies of the formats of the engine, and they
can be asked what the templates of any collection can be asked. Rendering a text or a file
leaves nothing behind.
-/

import Stencil.Collection
import Stencil.Engine

namespace Stencil.Engine

/-- An engine and the templates that it compiled on their own. -/
structure Session where
  engine : Engine
  compiled : Collection := {}

/-- What a session is asked to do. -/
inductive Request where
  /-- Compile a text and keep the template. -/
  | compile (source : String)
  /-- Render a text. -/
  | render (source : String) (datum : Datum)
  /-- Render the text of a file. -/
  | renderFile (path encoding : String) (datum : Datum)
  /-- Ask something of the templates that were kept. -/
  | template (request : Collection.Request)
  /-- Give the engine one more format. -/
  | setFormat (typeName format : String)
  /-- Give the configuration. -/
  | config

/-- What a session answers. -/
inductive Reply where
  /-- A template was kept; these are its number and its formats. -/
  | compiled (number : Nat) (formats : FormatTable)
  | text (content : String)
  /-- What the collection of the templates that were kept answers. -/
  | template (reply : Collection.Reply)
  | formats (table : FormatTable)
  | config (config : EngineConfig)
  /-- The request failed. -/
  | failed (failure : Failure)

/-- What a request comes to: the session behind it, its answer, and the events. -/
structure Performed where
  session : Session
  reply : Reply
  events : List Event := []

namespace Session

/-- The session with the text of a run as its answer. -/
def answerText (session : Session) (run : Run String) : Performed where
  session := session
  reply :=
    match run.outcome with
    | .ok text => .text text
    | .error failure => .failed failure
  events := run.events

variable [Memory]

/-- Does what a session is asked to do, with the files of the working directory. -/
def perform (files : Files.Tree) (session : Session) : Request → Performed
  | .compile source =>
    let run := session.engine.compile source
    match run.outcome with
    | .error failure => { session, reply := .failed failure, events := run.events }
    | .ok template =>
      { session := { session with compiled := session.compiled.add template },
        reply := .compiled session.compiled.templates.length template.formats,
        events := run.events }
  | .render source datum => session.answerText (session.engine.render source datum)
  | .renderFile path encoding datum =>
    session.answerText (session.engine.renderFile files path encoding datum)
  | .template request =>
    let performed := session.compiled.perform files request
    { session := { session with compiled := performed.collection },
      reply := .template performed.reply,
      events := performed.events }
  | .setFormat typeName format =>
    { session := { session with engine := session.engine.setFormat typeName format },
      reply := .formats session.engine.config.formats }
  | .config => { session, reply := .config session.engine.config }

end Session

end Stencil.Engine
