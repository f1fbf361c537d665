/-
This file tells the operations on templates, and those of engines and of sessions, with their log
calls in place.

Each handler of a failure stands where it is met: it tells the failures of its own kind and hands
every failure on. Whatever the settings are, an operation answers what it answers elsewhere,
leaves the same templates behind, and makes the log calls of the events that it has there.
-/

import Stencil.Engine.Session
import Stencil.Proofs.Journal

namespace Stencil

/-! ### Templates -/

namespace Template

/-- Compiles a text that begins with the given delimiters in force. -/
def compileLogged (settings : LogSettings) (delimiters : Delimiters) (source : String) :
    Logged (Except Failure Template) := do
  match ← Stencil.compileLogged settings delimiters source with
  | .error error => return .error (.parse error)
  | .ok tokens =>
    settings.tell (.compiled tokens.length)
    return .ok { tokens }

theorem tells_compile (settings : LogSettings) (delimiters : Delimiters) (source : String) :
    (compileLogged settings delimiters source).Tells settings
      (compile delimiters source).outcome (compile delimiters source).events := by
  have tells := Stencil.tells_compile settings delimiters source
  rw [compile]
  cases outcome : (Stencil.compile delimiters source).outcome with
  | error error =>
    rw [outcome] at tells
    exact tells.quietly (Logged.tells_pure _)
  | ok tokens =>
    rw [outcome] at tells
    exact tells.bind (Logged.tells_told _ _)

/-- A text that cannot be compiled is at fault. -/
theorem exists_parse_of_compile {delimiters : Delimiters} {source : String} {failure : Failure}
    (failed : (compile delimiters source).outcome = .error failure) :
    ∃ error, failure = .parse error := by
  rw [compile] at failed
  split at failed
  · rename_i error _
    cases failed
    exact ⟨error, rfl⟩
  · cases failed

/-- Compiles a text that begins with two strings as its delimiters. -/
def parseLogged (settings : LogSettings) (source opening closing : String) :
    Logged (Except Failure Template) :=
  match Delimiters.ofStrings opening closing with
  | .error failure => return .error failure
  | .ok delimiters => compileLogged settings delimiters source

theorem tells_parse (settings : LogSettings) (source opening closing : String) :
    (parseLogged settings source opening closing).Tells settings
      (parse source opening closing).outcome (parse source opening closing).events := by
  rw [parse, parseLogged]
  cases Delimiters.ofStrings opening closing with
  | error failure => exact Logged.tells_pure _
  | ok delimiters => exact tells_compile settings delimiters source

/-- Compiles the text of a file; a fault in it is told with the path. -/
def loadLogged (settings : LogSettings) (files : Files.Tree)
    (path encoding opening closing : String) : Logged (Except Failure Template) :=
  match Files.readSource files path encoding with
  | .error error => return .error (.read error)
  | .ok source => do
    match ← parseLogged settings source opening closing with
    | .error failure =>
      if let .parse error := failure then settings.tell (.loadFailed path error)
      return .error failure
    | .ok template =>
      settings.tell (.loaded path template.tokens.length)
      return .ok template

theorem tells_load (settings : LogSettings) (files : Files.Tree)
    (path encoding opening closing : String) :
    (loadLogged settings files path encoding opening closing).Tells settings
      (load files path encoding opening closing).outcome
      (load files path encoding opening closing).events := by
  rw [load, loadLogged]
  cases Files.readSource files path encoding with
  | error error => exact Logged.tells_pure _
  | ok source =>
    have tells := tells_parse settings source opening closing
    cases outcome : (parse source opening closing).outcome with
    | ok template =>
      rw [outcome] at tells
      simp only [outcome]
      exact tells.bind (Logged.tells_told _ _)
    | error failure =>
      rw [outcome] at tells
      simp only [outcome]
      cases failure with
      | parse error => exact tells.bind (Logged.tells_told _ _)
      | _ => exact tells.bind (Logged.tells_pure _)

variable [Memory]

/-- Renders a template against data. -/
def renderLogged (settings : LogSettings) (template : Template) (datum : Datum) :
    Logged (Template × Except Failure String) :=
  match datum.toValue with
  | .error refusal => return (template, .error (.refused refusal))
  | .ok root => do
    let (outcome, formats) ← Stencil.renderLogged settings template.tokens template.formats root
    return ({ template with formats }, outcome.mapError .render)

theorem tells_render (settings : LogSettings) (template : Template) (datum : Datum) :
    (template.renderLogged settings datum).Tells settings
      ((template.render datum).template, (template.render datum).outcome)
      (template.render datum).events := by
  rw [render, renderLogged]
  cases datum.toValue with
  | error refusal => exact Logged.tells_pure _
  | ok root =>
    exact (Stencil.tells_render settings template.tokens template.formats root).quietly
      (Logged.tells_pure _)

end Template

/-! ### Engines -/

namespace Engine

/-- The template that an engine makes of a text; a fault in it is told. -/
def compileLogged (settings : LogSettings) (engine : Engine) (source : String) :
    Logged (Except Failure Template) := do
  match ← Template.compileLogged settings engine.config.delimiters source with
  | .ok template => return .ok { template with formats := engine.formats }
  | .error failure =>
    if let .parse error := failure then
      settings.tell (.engineCompileFailed engine.config.logger error)
    return .error failure

theorem tells_compile (settings : LogSettings) (engine : Engine) (source : String) :
    (engine.compileLogged settings source).Tells settings
      (engine.compile source).outcome (engine.compile source).events := by
  have tells := Template.tells_compile settings engine.config.delimiters source
  rw [compile, compileLogged]
  cases outcome : (Template.compile engine.config.delimiters source).outcome with
  | ok template =>
    rw [outcome] at tells
    exact tells.quietly (Logged.tells_pure _)
  | error failure =>
    rw [outcome] at tells
    cases failure with
    | parse error => exact tells.bind (Logged.tells_told _ _)
    | _ =>
      -- No text fails so, but the definition has an answer for it.
      simp only [outcome]
      exact tells.quietly (Logged.tells_pure _)

/-- A text that an engine cannot compile is at fault. -/
theorem exists_parse_of_compile {engine : Engine} {source : String} {failure : Failure}
    (failed : (engine.compile source).outcome = .error failure) :
    ∃ error, failure = .parse error := by
  rw [compile] at failed
  cases outcome : (Template.compile engine.config.delimiters source).outcome with
  | ok template =>
    simp only [outcome] at failed
    cases failed
  | error fault =>
    obtain ⟨error, rfl⟩ := Template.exists_parse_of_compile outcome
    simp only [outcome] at failed
    cases failed
    exact ⟨error, rfl⟩

/-- Tells the error of the renderer under a label. -/
def tellOutcome (settings : LogSettings) (engine : Engine) (label : String) :
    Except Failure String → Logged Unit
  | .error (.render error) =>
    if error.isNumberLimit then pure ()
    else settings.tell (.engineRenderFailed engine.config.logger label error)
  | _ => pure ()

theorem tells_tellOutcome (settings : LogSettings) (engine : Engine) (label : String)
    (outcome : Except Failure String) :
    (engine.tellOutcome settings label outcome).Tells settings ()
      (match outcome with
        | .ok _ => []
        | .error failure => engine.renderFailureEvents label failure) := by
  cases outcome with
  | ok text => exact Logged.tells_pure _
  | error failure =>
    cases failure with
    | render error =>
      simp only [tellOutcome, renderFailureEvents]
      split
      · exact Logged.tells_pure _
      · exact Logged.tells_tell _
    | _ => exact Logged.tells_pure _

variable [Memory]

/-- Renders a new template against data; an error of the renderer is told under a label. -/
def renderCompiledLogged (settings : LogSettings) (engine : Engine) (template : Template)
    (datum : Datum) (label : String) : Logged (Except Failure String) := do
  let (_, outcome) ← template.renderLogged settings datum
  engine.tellOutcome settings label outcome
  return outcome

theorem tells_renderCompiled (settings : LogSettings) (engine : Engine) (template : Template)
    (datum : Datum) (label : String) :
    (engine.renderCompiledLogged settings template datum label).Tells settings
      (engine.renderCompiled template datum label).outcome
      (engine.renderCompiled template datum label).events :=
  (Template.tells_render settings template datum).bind
    ((tells_tellOutcome settings engine label _).quietly (Logged.tells_pure _))

/-- Compiles a text and renders it against data. -/
def renderLogged (settings : LogSettings) (engine : Engine) (source : String) (datum : Datum) :
    Logged (Except Failure String) := do
  match ← engine.compileLogged settings source with
  | .error failure => return .error failure
  | .ok template => engine.renderCompiledLogged settings template datum textLabel

theorem tells_render (settings : LogSettings) (engine : Engine) (source : String)
    (datum : Datum) :
    (engine.renderLogged settings source datum).Tells settings
      (engine.render source datum).outcome (engine.render source datum).events := by
  have tells := tells_compile settings engine source
  rw [render]
  cases outcome : (engine.compile source).outcome with
  | error failure =>
    rw [outcome] at tells
    exact tells.quietly (Logged.tells_pure _)
  | ok template =>
    rw [outcome] at tells
    exact tells.bind (tells_renderCompiled settings engine template datum textLabel)

/-- Compiles the text of a file and renders it against data; of a fault in the text the path is
told too. -/
def renderFileLogged (settings : LogSettings) (engine : Engine) (files : Files.Tree)
    (path encoding : String) (datum : Datum) : Logged (Except Failure String) :=
  match Files.readSource files path encoding with
  | .error error => return .error (.read error)
  | .ok source => do
    match ← engine.compileLogged settings source with
    | .error failure =>
      if let .parse _ := failure then
        settings.tell (.engineFileFailed engine.config.logger path)
      return .error failure
    | .ok template => engine.renderCompiledLogged settings template datum path

theorem tells_renderFile (settings : LogSettings) (engine : Engine) (files : Files.Tree)
    (path encoding : String) (datum : Datum) :
    (engine.renderFileLogged settings files path encoding datum).Tells settings
      (engine.renderFile files path encoding datum).outcome
      (engine.renderFile files path encoding datum).events := by
  rw [renderFile, renderFileLogged]
  cases Files.readSource files path encoding with
  | error error => exact Logged.tells_pure _
  | ok source =>
    have tells := tells_compile settings engine source
    cases outcome : (engine.compile source).outcome with
    | error failure =>
      obtain ⟨error, rfl⟩ := exists_parse_of_compile outcome
      rw [outcome] at tells
      simp only [outcome]
      exact tells.bind (Logged.tells_told _ _)
    | ok template =>
      rw [outcome] at tells
      simp only [outcome]
      exact tells.bind (tells_renderCompiled settings engine template datum path)

end Engine

/-! ### Collections and sessions -/

namespace Collection

/-- The collection behind a request, and its answer. -/
def Performed.answer (performed : Performed) : Collection × Reply :=
  (performed.collection, performed.reply)

/-- The collection with a template that was made, or the failure to make one, and the answer. -/
def taken (collection : Collection) (outcome : Except Failure Template) : Collection × Reply :=
  (collection.take { outcome }).answer

theorem answer_take (collection : Collection) (made : Run Template) :
    (collection.take made).answer = collection.taken made.outcome := by
  rw [taken, take, take]
  cases made.outcome <;> rfl

theorem events_take (collection : Collection) (made : Run Template) :
    (collection.take made).events = made.events := by
  rw [take]
  cases made.outcome <;> rfl

theorem events_withTemplate (collection : Collection) (number : Nat)
    {use : Template → Performed} (quiet : ∀ template, (use template).events = []) :
    (collection.withTemplate number use).events = [] := by
  rw [withTemplate]
  cases collection.get? number with
  | none => rfl
  | some template => exact quiet template

variable [Memory]

/-- Renders the template of a number. -/
def renderAtLogged (settings : LogSettings) (collection : Collection) (number : Nat)
    (datum : Datum) : Logged (Collection × Reply) :=
  match collection.get? number with
  | none => return (collection, .absent number)
  | some template => do
    let (template, outcome) ← template.renderLogged settings datum
    return (collection.replace number template,
      match outcome with
      | .ok text => .text text template.formats
      | .error failure => .failed failure)

theorem tells_renderAt (settings : LogSettings) (collection : Collection) (number : Nat)
    (datum : Datum) :
    (collection.renderAtLogged settings number datum).Tells settings
      (collection.renderAt number datum).answer (collection.renderAt number datum).events := by
  rw [renderAt, withTemplate, renderAtLogged]
  cases collection.get? number with
  | none => exact Logged.tells_pure _
  | some template =>
    exact (Template.tells_render settings template datum).quietly (Logged.tells_pure _)

/-- Does what a collection is asked to do. Only compiling and rendering make log calls. -/
def performLogged (settings : LogSettings) (files : Files.Tree) (collection : Collection) :
    Request → Logged (Collection × Reply)
  | .parse source opening closing => do
    return collection.taken (← Template.parseLogged settings source opening closing)
  | .load path encoding opening closing => do
    return collection.taken (← Template.loadLogged settings files path encoding opening closing)
  | .render number datum => collection.renderAtLogged settings number datum
  | request => return (collection.perform files request).answer

/-- A request that neither compiles nor renders anything. -/
def Request.isSilent : Request → Bool
  | .parse .. | .load .. | .render .. => false
  | _ => true

theorem events_of_isSilent (files : Files.Tree) (collection : Collection) {request : Request}
    (silent : request.isSilent = true) : (collection.perform files request).events = [] := by
  cases request with
  | parse | load | render => cases silent
  | build tokens formats => exact events_take collection _
  | compare number other =>
    refine events_withTemplate collection number fun _ => ?_
    cases other with
    | none => rfl
    | some other => exact events_withTemplate collection other fun _ => rfl
  | copy | setFormat | formats | tokens | describe =>
    exact events_withTemplate collection _ fun _ => rfl

theorem tells_perform (settings : LogSettings) (files : Files.Tree) (collection : Collection)
    (request : Request) :
    (collection.performLogged settings files request).Tells settings
      (collection.perform files request).answer (collection.perform files request).events := by
  have tells {request : Request} (silent : request.isSilent = true) :
      Logged.Tells (pure (collection.perform files request).answer) settings
        (collection.perform files request).answer (collection.perform files request).events := by
    rw [events_of_isSilent files collection silent]
    exact Logged.tells_pure _
  cases request with
  | parse source opening closing =>
    rw [perform, answer_take, events_take]
    exact (Template.tells_parse settings source opening closing).quietly (Logged.tells_pure _)
  | load path encoding opening closing =>
    rw [perform, answer_take, events_take]
    exact (Template.tells_load settings files path encoding opening closing).quietly
      (Logged.tells_pure _)
  | render number datum => exact tells_renderAt settings collection number datum
  | _ => exact tells rfl

end Collection

namespace Engine

/-- The session behind a request, and its answer. -/
def Performed.answer (performed : Performed) : Session × Reply :=
  (performed.session, performed.reply)

namespace Session

/-- What a session answers to a text or a failure. -/
def answered (session : Session) (outcome : Except Failure String) : Session × Reply :=
  (session.answerText { outcome }).answer

variable [Memory]

/-- Does what a session is asked to do. Only compiling and rendering make log calls. -/
def performLogged (settings : LogSettings) (files : Files.Tree) (session : Session) :
    Request → Logged (Session × Reply)
  | .compile source => do
    match ← session.engine.compileLogged settings source with
    | .error failure => return (session, .failed failure)
    | .ok template =>
      return ({ session with compiled := session.compiled.add template },
        .compiled session.compiled.templates.length template.formats)
  | .render source datum => do
    return session.answered (← session.engine.renderLogged settings source datum)
  | .renderFile path encoding datum => do
    return session.answered
      (← session.engine.renderFileLogged settings files path encoding datum)
  | .template request => do
    let (compiled, reply) ← session.compiled.performLogged settings files request
    return ({ session with compiled }, .template reply)
  | request => return (session.perform files request).answer

/-- A session with its log calls in place answers what it answers elsewhere, and makes the log
calls of its events. -/
theorem tells_perform (settings : LogSettings) (files : Files.Tree) (session : Session)
    (request : Request) :
    (session.performLogged settings files request).Tells settings
      (session.perform files request).answer (session.perform files request).events := by
  cases request with
  | compile source =>
    have tells := tells_compile settings session.engine source
    rw [perform]
    cases outcome : (session.engine.compile source).outcome with
    | error failure =>
      rw [outcome] at tells
      exact tells.quietly (Logged.tells_pure _)
    | ok template =>
      rw [outcome] at tells
      exact tells.quietly (Logged.tells_pure _)
  | render source datum =>
    exact (tells_render settings session.engine source datum).quietly (Logged.tells_pure _)
  | renderFile path encoding datum =>
    exact (tells_renderFile settings session.engine files path encoding datum).quietly
      (Logged.tells_pure _)
  | template request =>
    exact (Collection.tells_perform settings files session.compiled request).quietly
      (Logged.tells_pure _)
  | setFormat typeName format => exact Logged.tells_pure _
  | config => exact Logged.tells_pure _

end Session

end Engine

/-! ### The events of an operation -/

namespace Event

/-- The logger to which an engine tells a failure. -/
def engineLogger? : Event → Option Log.Logger
  | .engineCompileFailed logger _ | .engineFileFailed logger _ | .engineRenderFailed logger _ _ =>
    some logger
  | _ => none

/-- An event is a detail of compiling or of rendering, and no failure. -/
def isDetail : Event → Bool
  | .compiled _ | .redelimited _ | .rendered _ => true
  | _ => false

theorem level_of_isDetail {event : Event} (detail : event.isDetail = true) :
    event.record.level = Log.Level.debug := by
  cases event with
  | compiled | redelimited | rendered => rfl
  | _ => cases detail

theorem engineLogger?_of_isDetail {event : Event} (detail : event.isDetail = true) :
    event.engineLogger? = none := by
  cases event with
  | compiled | redelimited | rendered => rfl
  | _ => cases detail

theorem level_of_engineLogger? {event : Event} {logger : Log.Logger}
    (told : event.engineLogger? = some logger) : event.record.level = Log.Level.error := by
  cases event with
  | engineCompileFailed | engineFileFailed | engineRenderFailed => rfl
  | _ => cases told

theorem isTrace_of_engineLogger? {event : Event} {logger : Log.Logger}
    (told : event.engineLogger? = some logger) : event.isTrace = false := by
  cases event with
  | rendered => cases told
  | _ => rfl

theorem logger_of_engineLogger? {event : Event} {logger : Log.Logger}
    (told : event.engineLogger? = some logger) (settings : LogSettings) :
    (settings.record event).logger = logger := by
  cases event with
  | engineCompileFailed | engineFileFailed | engineRenderFailed => exact Option.some.inj told
  | _ => cases told

end Event

namespace Template

theorem isDetail_compile (delimiters : Delimiters) (source : String) :
    ∀ event ∈ (compile delimiters source).events, event.isDetail = true := by
  have changes : ∀ event ∈ (Stencil.compile delimiters source).changes.map Event.redelimited,
      event.isDetail = true := by
    intro event member
    obtain ⟨change, -, rfl⟩ := List.mem_map.mp member
    rfl
  rw [compile]
  split
  · exact changes
  · exact List.forall_mem_append.mpr ⟨changes, List.forall_mem_singleton.mpr rfl⟩

theorem isDetail_parse (source opening closing : String) :
    ∀ event ∈ (parse source opening closing).events, event.isDetail = true := by
  rw [parse]
  cases Delimiters.ofStrings opening closing with
  | error failure => simp
  | ok delimiters => exact isDetail_compile delimiters source

theorem isDetail_render [Memory] (template : Template) (datum : Datum) :
    ∀ event ∈ (template.render datum).events, event.isDetail = true := by
  rw [render]
  cases datum.toValue with
  | error refusal => simp
  | ok root => simp [renderValue, Event.isDetail]

theorem engineLogger?_load (files : Files.Tree) (path encoding opening closing : String) :
    ∀ event ∈ (load files path encoding opening closing).events,
      event.engineLogger? = none := by
  rw [load]
  cases Files.readSource files path encoding with
  | error error => simp
  | ok source =>
    intro event member
    rcases List.mem_append.mp member with inside | behind
    · exact Event.engineLogger?_of_isDetail (isDetail_parse source opening closing event inside)
    · split at behind <;> simp at behind <;> rw [behind] <;> rfl

end Template

/-- No template tells anything to the logger of an engine. -/
theorem Collection.engineLogger?_perform [Memory] (files : Files.Tree)
    (collection : Collection) (request : Request) :
    ∀ event ∈ (collection.perform files request).events, event.engineLogger? = none := by
  cases request with
  | parse source opening closing =>
    rw [perform, events_take]
    exact fun event member => Event.engineLogger?_of_isDetail
      (Template.isDetail_parse source opening closing event member)
  | load path encoding opening closing =>
    rw [perform, events_take]
    exact Template.engineLogger?_load files path encoding opening closing
  | render number datum =>
    rw [perform, renderAt, withTemplate]
    cases collection.get? number with
    | none => simp
    | some template =>
      exact fun event member => Event.engineLogger?_of_isDetail
        (Template.isDetail_render template datum event member)
  | _ =>
    rw [events_of_isSilent files collection rfl]
    simp

namespace Engine

/-- An event of an engine: a detail, or a failure that is told to the logger of the engine. -/
def Has (engine : Engine) (event : Event) : Prop :=
  event.isDetail = true ∨ event.engineLogger? = some engine.config.logger

theorem has_compile (engine : Engine) (source : String) :
    ∀ event ∈ (engine.compile source).events, engine.Has event := by
  have details := Template.isDetail_compile engine.config.delimiters source
  rw [compile]
  intro event member
  split at member
  · exact .inl (details event member)
  · rcases List.mem_append.mp member with inside | behind
    · exact .inl (details event inside)
    · rw [List.mem_singleton.mp behind]
      exact .inr rfl
  · exact .inl (details event member)

theorem has_of_mem_renderFailureEvents {engine : Engine} {label : String} {failure : Failure}
    {event : Event} (member : event ∈ engine.renderFailureEvents label failure) :
    engine.Has event := by
  unfold renderFailureEvents at member
  split at member
  · split at member
    · cases member
    · rw [List.mem_singleton.mp member]
      exact .inr rfl
  · cases member

variable [Memory]

theorem has_renderCompiled (engine : Engine) (template : Template) (datum : Datum)
    (label : String) :
    ∀ event ∈ (engine.renderCompiled template datum label).events, engine.Has event := by
  refine List.forall_mem_append.mpr
    ⟨fun event member => .inl (Template.isDetail_render template datum event member), ?_⟩
  intro event member
  split at member
  · cases member
  · exact has_of_mem_renderFailureEvents member

theorem has_render (engine : Engine) (source : String) (datum : Datum) :
    ∀ event ∈ (engine.render source datum).events, engine.Has event := by
  rw [render]
  split
  · exact has_compile engine source
  · exact List.forall_mem_append.mpr
      ⟨has_compile engine source, has_renderCompiled engine _ datum textLabel⟩

theorem has_renderFile (engine : Engine) (files : Files.Tree) (path encoding : String)
    (datum : Datum) :
    ∀ event ∈ (engine.renderFile files path encoding datum).events, engine.Has event := by
  rw [renderFile]
  split
  · simp
  · simp only
    split
    · exact List.forall_mem_append.mpr
        ⟨has_compile engine _, List.forall_mem_singleton.mpr (.inr rfl)⟩
    · exact List.forall_mem_append.mpr
        ⟨has_compile engine _, has_renderCompiled engine _ datum path⟩

end Engine

end Stencil
