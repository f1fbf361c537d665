/-
This file tells compiling and rendering with their log calls in place.

Elsewhere an operation gives its events as a list, and settings choose among them afterwards. Here
every log call stands where it happens, in the middle of a compilation or of the walk of the
renderer: it asks the settings whether a level passes at its logger and whether tracing is on,
and writes its record, or writes none, before the operation goes on. Nothing that is written is
read again. Compiling and the walk come to the same result in both tellings, and what they write
are the records of their events that the settings let pass, in their order.
-/

import Stencil.Event

namespace Stencil

/-! ### Log calls -/

/-- What log calls depend on: the level of the base of all loggers, the setting that turns tracing
on, the loggers that there are, and those of them that compiling, rendering and loading write to. -/
structure LogSettings where
  level : Log.Level := Log.Level.unset
  tracing : Option String := none
  hierarchy : Log.Hierarchy := .initial
  compiling : Log.Logger := .compiling
  rendering : Log.Logger := .rendering
  loading : Log.Logger := .loading

/-- Something that is done while records are written, each behind those before it. -/
abbrev Logged (α : Type) := StateM (List Log.Record) α

namespace LogSettings

/-- Records of a level pass at a logger. -/
def isEnabled (settings : LogSettings) (logger : Log.Logger) (level : Log.Level) : Bool :=
  settings.hierarchy.isEnabled logger settings.level level

/-- Writes a record, if its level passes at its logger. -/
def write (settings : LogSettings) (record : Log.Record) : Logged Unit :=
  if settings.isEnabled record.logger record.level then modify (· ++ [record]) else pure ()

/-- Writes the record of a trace, where tracing is on and records for debugging pass. -/
def trace (settings : LogSettings) (record : Log.Record) : Logged Unit :=
  if !Log.isTracing settings.tracing || !settings.isEnabled record.logger Log.Level.debug then
    pure ()
  else settings.write record

/-- The record of an event, with the logger that the settings have for it. -/
def record (settings : LogSettings) (event : Event) : Log.Record :=
  match event with
  | .compiled _ | .redelimited _ => { event.record with logger := settings.compiling }
  | .rendered _ => { event.record with logger := settings.rendering }
  | .loaded .. | .loadFailed .. => { event.record with logger := settings.loading }
  | .engineCompileFailed .. | .engineFileFailed .. | .engineRenderFailed .. => event.record

/-- The log call of an event. -/
def tell (settings : LogSettings) (event : Event) : Logged Unit :=
  if event.isTrace then settings.trace (settings.record event)
  else settings.write (settings.record event)

/-- The log call of an event writes a record. -/
def writes (settings : LogSettings) (event : Event) : Bool :=
  (Log.isTracing settings.tracing || !event.isTrace) &&
    settings.isEnabled (settings.record event).logger (settings.record event).level

/-- The records that the log calls of events write. -/
def records (settings : LogSettings) (events : List Event) : List Log.Record :=
  (events.filter settings.writes).map settings.record

theorem records_append (settings : LogSettings) (first second : List Event) :
    settings.records (first ++ second) = settings.records first ++ settings.records second := by
  simp [records]

theorem level_record (settings : LogSettings) (event : Event) :
    (settings.record event).level = event.record.level := by
  cases event <;> rfl

theorem level_of_isTrace {event : Event} (traced : event.isTrace = true) :
    event.record.level = Log.Level.debug := by
  cases event with
  | rendered event => rfl
  | _ => cases traced

end LogSettings

/-- Something that is logged comes to a result and makes the log calls of events, whatever was
written before. -/
def Logged.Tells {α : Type} (logged : Logged α) (settings : LogSettings) (result : α)
    (events : List Event) : Prop :=
  ∀ written, logged written = (result, written ++ settings.records events)

namespace Logged

variable {α β : Type} {settings : LogSettings}

theorem tells_pure (result : α) : Tells (pure result) settings result [] := fun written =>
  congrArg (Prod.mk result) (List.append_nil written).symm

theorem Tells.bind {logged : Logged α} {next : α → Logged β} {value : α} {result : β}
    {events more : List Event} (tells : logged.Tells settings value events)
    (behind : (next value).Tells settings result more) :
    (logged >>= next).Tells settings result (events ++ more) := by
  intro written
  show next (logged written).1 (logged written).2 = _
  rw [tells written, behind, LogSettings.records_append, List.append_assoc]

theorem Tells.quietly {logged : Logged α} {next : α → Logged β} {value : α} {result : β}
    {events : List Event} (tells : logged.Tells settings value events)
    (behind : (next value).Tells settings result []) :
    (logged >>= next).Tells settings result events := by
  rw [← List.append_nil events]
  exact tells.bind behind

/-- A log call writes its record if the settings let it pass. -/
theorem tells_tell (event : Event) : (settings.tell event).Tells settings () [event] := by
  intro written
  have one : settings.records [event] =
      if settings.writes event then [settings.record event] else [] := by
    cases passes : settings.writes event <;> simp [LogSettings.records, passes]
  rw [one, LogSettings.tell, LogSettings.writes]
  cases traced : event.isTrace with
  | false =>
    rw [LogSettings.write]
    cases settings.isEnabled _ _ <;> simp <;> rfl
  | true =>
    -- A trace is asked for its level before it is written and again where it is.
    rw [LogSettings.level_record, LogSettings.level_of_isTrace traced, LogSettings.trace,
      LogSettings.write, LogSettings.level_record, LogSettings.level_of_isTrace traced]
    cases Log.isTracing settings.tracing <;> cases settings.isEnabled _ _ <;> simp <;> rfl

theorem tells_told (event : Event) (result : α) :
    Tells (do
      settings.tell event
      return result) settings result [event] :=
  (tells_tell event).quietly (tells_pure result)

/-- The result and the records that something logged comes to where nothing was written before. -/
theorem Tells.run {logged : Logged α} {result : α} {events : List Event}
    (tells : logged.Tells settings result events) :
    logged [] = (result, settings.records events) := tells []

end Logged

/-! ### Compiling -/

namespace Assembly

/-- Tells a change of delimiters where an item is one. -/
def tellTaken (assembly : Assembly) (settings : LogSettings) (placed : PlacedItem) :
    Logged Unit :=
  match placed.item with
  | .redelimited chosen =>
    settings.tell
      (.redelimited { old := assembly.delimiters, new := chosen, position := placed.stop })
  | _ => pure ()

/-- Takes all items of a text, up to the first fault, and tells the changes of delimiters. -/
def takeAllLogged (settings : LogSettings) (assembly : Assembly)
    (ending : Except ParseError Position) :
    List PlacedItem → Logged (Except ParseError (List Token))
  | [] => pure (assembly.finish ending)
  | placed :: rest =>
    match assembly.take placed with
    | .error fault => pure (.error fault)
    | .ok next => do
      assembly.tellTaken settings placed
      next.takeAllLogged settings ending rest

/-- An item that is taken tells the changes that it adds. -/
theorem tells_tellTaken (settings : LogSettings) {assembly next : Assembly} {placed : PlacedItem}
    (taken : assembly.take placed = .ok next) :
    ∃ changes : List DelimiterChange, next.changes = changes.reverse ++ assembly.changes ∧
      (assembly.tellTaken settings placed).Tells settings () (changes.map .redelimited) := by
  rw [take] at taken
  rw [tellTaken]
  cases item : placed.item with
  | redelimited chosen =>
    rw [item] at taken
    cases taken
    exact ⟨[_], rfl, Logged.tells_tell _⟩
  | text | insert | setFormat | opened =>
    rw [item] at taken
    cases taken
    exact ⟨[], rfl, Logged.tells_pure ()⟩
  | closed name =>
    rw [item] at taken
    refine ⟨[], ?_, Logged.tells_pure ()⟩
    cases around : assembly.around with
    | nil =>
      simp only [around] at taken
      cases taken
    | cons innermost outer =>
      simp only [around] at taken
      split at taken
      · cases taken
        rfl
      · cases taken

/-- Compiling with log calls in place takes the same items and tells the same changes. -/
theorem tells_takeAll (settings : LogSettings) (ending : Except ParseError Position)
    (items : List PlacedItem) (assembly : Assembly) :
    ∃ changes, (assembly.takeAll ending items).changes = assembly.changes.reverse ++ changes ∧
      (assembly.takeAllLogged settings ending items).Tells settings
        (assembly.takeAll ending items).outcome (changes.map .redelimited) := by
  induction items generalizing assembly with
  | nil => exact ⟨[], (List.append_nil _).symm, Logged.tells_pure _⟩
  | cons placed rest inductionHypothesis =>
    rw [takeAll, takeAllLogged]
    cases taken : assembly.take placed with
    | error fault => exact ⟨[], (List.append_nil _).symm, Logged.tells_pure _⟩
    | ok next =>
      obtain ⟨first, added, tells⟩ := tells_tellTaken settings taken
      obtain ⟨others, further, behind⟩ := inductionHypothesis next
      refine ⟨first ++ others, ?_, ?_⟩
      · rw [further, added]
        simp
      · rw [List.map_append]
        exact tells.bind behind

end Assembly

/-- Compiles the text of a template that begins with the given delimiters in force. -/
def compileLogged (settings : LogSettings) (delimiters : Delimiters) (text : String) :
    Logged (Except ParseError (List Token)) :=
  let itemized := (Cursor.ofText text.toList).itemize delimiters 0
  ({ delimiters } : Assembly).takeAllLogged settings itemized.ending itemized.items

theorem tells_compile (settings : LogSettings) (delimiters : Delimiters) (text : String) :
    (compileLogged settings delimiters text).Tells settings (compile delimiters text).outcome
      ((compile delimiters text).changes.map .redelimited) := by
  obtain ⟨changes, same, tells⟩ := Assembly.tells_takeAll settings
    ((Cursor.ofText text.toList).itemize delimiters 0).ending
    ((Cursor.ofText text.toList).itemize delimiters 0).items { delimiters }
  have compiled : (compile delimiters text).changes = changes := same
  rw [compiled]
  exact tells

/-! ### Rendering -/

/-- Something that is logged runs beside a walk that goes on from a state: it comes to the same
text or error and to the same table, and makes the log calls of the events behind that state. -/
def RunsBeside (settings : LogSettings) (state : RenderState) (walked : Walked)
    (logged : Logged (Except RenderError String × FormatTable)) : Prop :=
  ∃ told : List RenderEvent, walked.state.events = told.reverse ++ state.events ∧
    logged.Tells settings (walked.toRendering.outcome, walked.state.formats)
      (told.map .rendered)

theorem runsBeside_stop (settings : LogSettings) (walked : Walked) :
    RunsBeside settings walked.state walked
      (pure (walked.toRendering.outcome, walked.state.formats)) :=
  ⟨[], rfl, Logged.tells_pure _⟩

theorem RunsBeside.note {settings : LogSettings} {state : RenderState} {event : RenderEvent}
    {walked : Walked} {logged : Logged (Except RenderError String × FormatTable)}
    (beside : RunsBeside settings (state.note event) walked logged) :
    RunsBeside settings state walked (do
      settings.tell (.rendered event)
      logged) := by
  obtain ⟨told, further, tells⟩ := beside
  refine ⟨event :: told, ?_, (Logged.tells_tell _).bind tells⟩
  rw [further, RenderState.events_note, List.reverse_cons, List.append_assoc]
  rfl

variable [Memory]

/-- Walks on from a stack of frames with the text and the table of formats so far. -/
def walkLogged (settings : LogSettings) (frames : List Frame) (text : String)
    (formats : FormatTable) : Logged (Except RenderError String × FormatTable) :=
  match frames with
  | [] => pure (.ok text, formats)
  | { pending := [], later := [], .. } :: outer => walkLogged settings outer text formats
  | { pending := [], later := pass :: later, body, .. } :: outer =>
    walkLogged settings ({ pending := body, scopes := pass, body, later } :: outer) text formats
  | { pending := token :: pending, scopes, body, later } :: outer =>
    let rest := { pending, scopes, body, later } :: outer
    match token with
    | .text content => walkLogged settings rest (text ++ content) formats
    | .setFormat typeName format => do
      settings.tell (.rendered (.formatSet typeName format))
      walkLogged settings rest text (formats.set typeName format)
    | .insert name format =>
      match scopes.resolve name with
      | .error error => pure (.error (.lookup error), formats)
      | .ok value => do
        settings.tell (.rendered (.insert name.toString value.kind))
        match insertText formats name format value with
        | .error error => return (.error error, formats)
        | .ok inserted => walkLogged settings rest (text ++ inserted) formats
    | .block name inverted children =>
      match _resolved : scopes.resolve name with
      | .error error => pure (.error (.lookup error), formats)
      | .ok value => do
        settings.tell (.rendered (.section name.toString value.kind inverted))
        match _entered : sectionPasses name inverted value scopes with
        | .error error => return (.error error, formats)
        | .ok passes => walkLogged settings (.entering children passes :: rest) text formats
  termination_by Frame.workAll frames
  decreasing_by
    all_goals
      simp only [Frame.workAll, Frame.work, Frame.entering, Token.workAll, Token.work, passesOf,
        List.foldr_cons, List.foldr_nil, *]
      omega

/-- The step at a section; the definition keeps there how its two choices came out. -/
theorem walkLogged_block (settings : LogSettings) (name : Name) (inverted : Bool)
    (children pending body : List Token) (scopes : Scopes) (later : List Scopes)
    (outer : List Frame) (text : String) (formats : FormatTable) :
    walkLogged settings
        ({ pending := .block name inverted children :: pending, scopes, body, later } :: outer)
        text formats =
      match scopes.resolve name with
      | .error error => pure (.error (.lookup error), formats)
      | .ok value =>
        settings.tell (.rendered (.section name.toString value.kind inverted)) >>= fun _ =>
          match sectionPasses name inverted value scopes with
          | .error error => pure (.error error, formats)
          | .ok passes =>
            walkLogged settings
              (.entering children passes :: { pending, scopes, body, later } :: outer) text
              formats := by
  rw [walkLogged]
  split
  · rename_i unresolved
    rw [unresolved]
  · rename_i value resolved
    rw [resolved]
    refine congrArg (settings.tell _ >>= ·) (funext fun _ => ?_)
    split
    · rename_i refused
      rw [refused]
    · rename_i entered
      rw [entered]

/-- The walk with log calls in place runs beside the walk. -/
theorem walkLogged_runsBeside (settings : LogSettings) (frames : List Frame)
    (state : RenderState) :
    RunsBeside settings state (walk frames state)
      (walkLogged settings frames state.text state.formats) := by
  -- Each case is one step of the walk; a step that notes an event tells it in front of the rest.
  fun_induction walk frames state with
  | case1 =>
    rw [walkLogged]
    exact runsBeside_stop settings _
  | case2 _ _ _ _ inductionHypothesis =>
    rw [walkLogged]
    exact inductionHypothesis
  | case3 _ _ _ _ _ _ inductionHypothesis =>
    rw [walkLogged]
    exact inductionHypothesis
  | case4 _ _ _ _ _ _ _ _ inductionHypothesis =>
    rw [walkLogged]
    exact inductionHypothesis
  | case5 _ _ _ _ _ _ _ _ _ inductionHypothesis =>
    rw [walkLogged]
    exact RunsBeside.note inductionHypothesis
  | case6 _ _ _ _ _ _ _ _ _ unresolved =>
    rw [walkLogged]
    simp only [unresolved]
    exact runsBeside_stop settings _
  | case7 state _ _ _ _ _ name format value resolved _ error refused =>
    have stopped : insertText state.formats name format value = .error error := refused
    rw [walkLogged]
    simp only [resolved, stopped]
    exact (runsBeside_stop settings _).note
  | case8 state _ _ _ _ _ _ name format value resolved _ text written inductionHypothesis =>
    have inserted : insertText state.formats name format value = .ok text := written
    rw [walkLogged]
    simp only [resolved, inserted]
    exact RunsBeside.note inductionHypothesis
  | case9 _ _ _ _ _ _ _ _ _ _ unresolved =>
    rw [walkLogged_block, unresolved]
    exact runsBeside_stop settings _
  | case10 _ _ _ _ _ _ _ _ _ _ resolved _ _ refused =>
    rw [walkLogged_block, resolved]
    simp only [refused]
    exact (runsBeside_stop settings _).note
  | case11 _ _ _ _ _ _ _ _ _ _ _ resolved _ _ entered inductionHypothesis =>
    rw [walkLogged_block, resolved]
    simp only [entered]
    exact RunsBeside.note inductionHypothesis

/-- Renders a template against a value, with a table of formats. -/
def renderLogged (settings : LogSettings) (tokens : List Token) (formats : FormatTable)
    (root : Value) : Logged (Except RenderError String × FormatTable) :=
  walkLogged settings [{ pending := tokens, scopes := [root] }] "" formats

theorem tells_render (settings : LogSettings) (tokens : List Token) (formats : FormatTable)
    (root : Value) :
    (renderLogged settings tokens formats root).Tells settings
      ((render tokens formats root).outcome, (render tokens formats root).formats)
      ((render tokens formats root).events.map .rendered) := by
  obtain ⟨told, further, tells⟩ :=
    walkLogged_runsBeside settings [{ pending := tokens, scopes := [root] }] { formats }
  have events : (render tokens formats root).events = told := by
    rw [render, Walked.toRendering, further, List.append_nil, List.reverse_reverse]
  rw [events]
  exact tells

end Stencil
