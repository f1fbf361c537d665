/-
This file proves that an engine is nothing but a way to make new templates.

Whatever was asked of an engine and of the templates that it compiled, the only thing that it
keeps is which formats it was given, in their order. A text is compiled and rendered as it would
be on its own, with the delimiters of the configuration, in a new template whose table has the
formats of the configuration and those that the engine was given since. What a rendering sets
and what becomes of a template that was compiled is lost on the engine, and a template that was
compiled takes its own steps only, whatever formats the engine is given.
-/

import Stencil.Engine.Session
import Stencil.Proofs.Steps

namespace Stencil

/-! ### New templates -/

/-- The template that a text makes on its own: compiled with the delimiters of a configuration,
with the formats of the configuration and then some more in its table. -/
def EngineConfig.newTemplate (config : EngineConfig) (settings : List (String × String))
    (source : String) : Except Failure Template :=
  (Template.compile config.delimiters source).outcome.map fun template =>
    { template with formats := config.formats.setAll settings }

namespace Engine

theorem outcome_compile (config : EngineConfig) (settings : List (String × String))
    (source : String) :
    (compile { config, formats := config.formats.setAll settings } source).outcome =
      config.newTemplate settings source := by
  rw [compile, EngineConfig.newTemplate]
  cases outcome : (Template.compile config.delimiters source).outcome with
  | ok template => rfl
  | error failure => cases failure <;> first | rfl | exact outcome

theorem outcome_render [Memory] (engine : Engine) (source : String) (datum : Datum) :
    (engine.render source datum).outcome =
      (engine.compile source).outcome.bind fun template => (template.render datum).outcome := by
  rw [render]
  cases (engine.compile source).outcome <;> rfl

/-! ### What a request does to a session -/

/-- The format that a request gives the engine, if it gives one. -/
def Request.setting? : Request → Option (String × String)
  | .setFormat typeName format => some (typeName, format)
  | _ => none

/-- The answer that gives a text, or tells why there is none. -/
def Reply.ofOutcome : Except Failure String → Reply
  | .ok content => .text content
  | .error failure => .failed failure

/-- The step that a request takes with the compiled template of a number, if it takes one with
it. -/
def Request.stepOn? (number : Nat) : Request → Option Template.Step
  | .template request => request.stepOn? number
  | _ => none

namespace Session

theorem reply_answerText (session : Session) (run : Run String) :
    (session.answerText run).reply = .ofOutcome run.outcome := by
  obtain ⟨outcome, events⟩ := run
  cases outcome <;> rfl

variable [Memory]

/-- An engine keeps its configuration and the formats that it is given. -/
theorem engine_perform (files : Files.Tree) (session : Session) (request : Request) :
    (session.perform files request).session.engine = { session.engine with
      formats := session.engine.formats.setAll request.setting?.toList } := by
  cases request with
  | compile source =>
    rw [perform]
    cases (session.engine.compile source).outcome <;> rfl
  | _ => rfl

/-- The compiled template of a number takes the step that a request takes with it, if any. -/
theorem carries_perform (files : Files.Tree) (session : Session) (request : Request)
    (number : Nat) :
    Collection.Carries number (request.stepOn? number).toList session.compiled
      (session.perform files request).session.compiled := by
  cases request with
  | compile source =>
    rw [perform]
    cases (session.engine.compile source).outcome with
    | error failure => exact .refl number _
    | ok template => exact Collection.carries_add _ _ number
  | template request => exact (Collection.effect_perform files _ request).carries number
  | render | renderFile | setFormat | config => exact .refl number _

end Session

/-! ### Histories -/

/-- What was asked of a session, the last request first. -/
abbrev History := List Request

/-- The formats that an engine was given, in their order. -/
def History.settings (history : History) : List (String × String) :=
  history.reverse.filterMap Request.setting?

namespace Session

section After

variable [Memory]

/-- The session that a history leaves behind, which begins with a new engine. -/
def after (files : Files.Tree) (config : EngineConfig) : History → Session
  | [] => { engine := .ofConfig config }
  | last :: earlier => ((after files config earlier).perform files last).session

/-- All that an engine keeps are the formats that it was given. -/
theorem engine_after (files : Files.Tree) (config : EngineConfig) (history : History) :
    (after files config history).engine =
      { config, formats := config.formats.setAll history.settings } := by
  induction history with
  | nil => rfl
  | cons last earlier inductionHypothesis =>
    rw [after, engine_perform, inductionHypothesis, ← FormatTable.setAll_append,
      History.settings, History.settings, List.reverse_cons, List.filterMap_append,
      filterMap_cons_toList, List.filterMap_nil, List.append_nil]

/-- A compiled template takes its own steps and no others, whatever else is asked. -/
theorem carries_after (files : Files.Tree) (config : EngineConfig) (number : Nat)
    (later earlier : History) :
    Collection.Carries number (later.filterMap (Request.stepOn? number))
      (after files config earlier).compiled (after files config (later ++ earlier)).compiled := by
  induction later with
  | nil => exact .refl number _
  | cons last later inductionHypothesis =>
    rw [filterMap_cons_toList]
    exact inductionHypothesis.trans (carries_perform files _ last number)

/-! ### The engine and what it made -/

/-- After any history an engine renders and compiles a text as it would be on its own in a new
template, and a rendering leaves nothing behind. A compiled template is from then on what its own
steps make of it. -/
theorem engine_forgets (files : Files.Tree) (config : EngineConfig) (history : History)
    (source : String) (datum : Datum) :
    let session := after files config history
    let new := config.newTemplate history.settings source
    let rendering := session.perform files (.render source datum)
    let compiling := session.perform files (.compile source)
    let number := session.compiled.templates.length
    (rendering.session = session ∧
      rendering.reply = .ofOutcome (new.bind fun template => (template.render datum).outcome)) ∧
    (match new with
    | .ok template =>
      compiling.reply = .compiled number template.formats ∧
        compiling.session.compiled.get? number = some template
    | .error failure => compiling.reply = .failed failure ∧ compiling.session = session) ∧
    ∀ later number template, session.compiled.get? number = some template →
      (after files config (later ++ history)).compiled.get? number =
        some (template.after (later.filterMap (Request.stepOn? number))) := by
  have engine := engine_after files config history
  refine ⟨⟨rfl, ?_⟩, ?_, fun later number => carries_after files config number later history⟩
  · show ((after files config history).answerText _).reply = _
    rw [reply_answerText, outcome_render, engine, outcome_compile]
  · have outcome : ((after files config history).engine.compile source).outcome =
        config.newTemplate history.settings source := by rw [engine, outcome_compile]
    rw [perform, outcome]
    cases config.newTemplate history.settings source with
    | error failure => exact ⟨rfl, rfl⟩
    | ok template => exact ⟨rfl, Collection.get?_add_length _ template⟩

end After

open Memory

/-- The engine is given a format behind a compilation. A text rendered by it has the new format and
nothing of what another text set; the template that was compiled keeps the old one. -/
theorem engine_forgets_interleaved :
    let color : Datum := .formattable (Color.toFormattable { red := 7, green := 8, blue := 9 })
    let config : EngineConfig := { formats := .ofPairs [("color", "\x7br\x7d")] }
    let template : Template := { tokens := [.insert .self none], formats := config.formats }
    let source := "\x7b\x7b.\x7d\x7d"
    let history : History := [.compile source]
    let later : History := [.setFormat "color" "\x7bg\x7d", .template (.render 0 color),
      .render "\x7b\x7b=color:\"\x7bb\x7d\"=\x7d\x7d" color]
    (after .empty config history).compiled.get? 0 = some template ∧
      (after .empty config (later ++ history)).compiled.get? 0 =
        some (template.after [.render color]) ∧
      ((after .empty config (later ++ history)).perform .empty (.render source color)).reply =
        .text "8" := by
  have trees : (Stencil.compile .standard "\x7b\x7b.\x7d\x7d").outcome =
      .ok [.insert .self none] := by with_unfolding_all rfl
  have text : ({
      tokens := [.insert .self none]
      formats := (FormatTable.ofPairs [("color", "\x7br\x7d")]).set "color" "\x7bg\x7d" :
        Template }.render (.formattable (Color.toFormattable
          { red := 7, green := 8, blue := 9 }))).outcome = .ok "8" := by with_unfolding_all rfl
  intro color config template source history later
  have new (settings : List (String × String)) : config.newTemplate settings source =
      .ok { template with formats := config.formats.setAll settings } := by
    show (Template.compile .standard source).outcome.map _ = _
    rw [Template.compile, trees]
    rfl
  have made := (engine_forgets .empty config [] source color).2.1
  rw [new] at made
  have carried := (engine_forgets .empty config history source color).2.2 later 0 template made.2
  have rendered := (engine_forgets .empty config (later ++ history) source color).1.2
  rw [new] at rendered
  exact ⟨made.2, carried, rendered.trans (congrArg Reply.ofOutcome text)⟩

end Session

end Engine

end Stencil
