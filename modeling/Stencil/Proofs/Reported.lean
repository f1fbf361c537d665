/-
This file proves which failures an engine reports to its logger.

An engine reports the faults of a text and the errors of the renderer, each before it hands the
failure on. Everything else passes by its handlers: a file that cannot be read or decoded, data
that have no value, be it for their type or for an integer with too many digits, and the limits of
numbers in a template. So an operation that gives a result reports no error, an operation that
fails reports one exactly if its failure is of the first kind, and a text that cannot be compiled
is always reported.
-/

import Stencil.Proofs.Logged

namespace Stencil

/-- A failure is of a kind that engines report: a fault of a text, or an error of the renderer that
is no limit of numbers. -/
def Failure.isReported : Failure → Bool
  | .parse _ => true
  | .render error => !error.isNumberLimit
  | .emptyDelimiters | .refused _ | .read _ => false

namespace Engine

/-- An error was written to the logger of the engine. -/
def Alarms (engine : Engine) (records : List Log.Record) : Prop :=
  ∃ record ∈ records, record.logger = engine.config.logger ∧ record.level = Log.Level.error

/-- An operation comes to a failure that engines report. -/
def FailsReported {α : Type} (outcome : Except Failure α) : Prop :=
  ∃ failure, outcome = .error failure ∧ failure.isReported = true

/-- An operation writes an error to the logger of the engine where it comes to a failure that
engines report, and where it does not it writes none there. -/
def Reports {α : Type} (engine : Engine) (logged : Logged (Except Failure α)) : Prop :=
  engine.Alarms (logged []).2 ↔ FailsReported (logged []).1

/-! ### Events and outcomes -/

/-- A failure that the engine tells is among events. -/
def HasFailure (engine : Engine) (events : List Event) : Prop :=
  ∃ event ∈ events, event.engineLogger? = some engine.config.logger

variable {engine : Engine}

theorem hasFailure_append {first second : List Event} :
    engine.HasFailure (first ++ second) ↔ engine.HasFailure first ∨ engine.HasFailure second := by
  simp [HasFailure, or_and_right, exists_or]

theorem hasFailure_singleton {event : Event} :
    engine.HasFailure [event] ↔ event.engineLogger? = some engine.config.logger := by
  simp [HasFailure]

theorem not_hasFailure_of_details {events : List Event}
    (details : ∀ event ∈ events, event.isDetail = true) : ¬ engine.HasFailure events := by
  rintro ⟨event, member, told⟩
  rw [Event.engineLogger?_of_isDetail (details event member)] at told
  cases told

theorem not_failsReported_ok {α : Type} (value : α) :
    ¬ FailsReported (.ok value : Except Failure α) := by
  rintro ⟨failure, failed, _⟩
  cases failed

theorem failsReported_error {α : Type} {failure : Failure} :
    FailsReported (.error failure : Except Failure α) ↔ failure.isReported = true := by
  constructor
  · rintro ⟨_, failed, reported⟩
    cases failed
    exact reported
  · exact fun reported => ⟨failure, rfl, reported⟩

/-- A text that cannot be compiled is told, whatever is wrong with it. -/
theorem hasFailure_compile (engine : Engine) (source : String) :
    engine.HasFailure (engine.compile source).events ↔
      FailsReported (engine.compile source).outcome := by
  have details := Template.isDetail_compile engine.config.delimiters source
  rw [compile]
  cases outcome : (Template.compile engine.config.delimiters source).outcome with
  | ok template =>
    exact iff_of_false (not_hasFailure_of_details details) (not_failsReported_ok _)
  | error failure =>
    obtain ⟨error, rfl⟩ := Template.exists_parse_of_compile outcome
    exact iff_of_true (hasFailure_append.mpr (.inr (hasFailure_singleton.mpr rfl)))
      (failsReported_error.mpr rfl)

/-- A template that is rendered is not at fault any more. -/
theorem ne_parse_of_render [Memory] {template : Template} {datum : Datum} {failure : Failure}
    (failed : (template.render datum).outcome = .error failure) (error : ParseError) :
    failure ≠ .parse error := by
  rintro rfl
  rw [Template.render] at failed
  split at failed
  · cases failed
  · rename_i root _
    rw [Template.renderValue] at failed
    cases outcome : (Stencil.render template.tokens template.formats root).outcome <;>
      rw [outcome] at failed <;> cases failed

/-- Of the failures of rendering an engine tells the errors of the renderer, except for the limits
of numbers. -/
theorem hasFailure_renderFailureEvents {label : String} {failure : Failure}
    (rendering : ∀ error, failure ≠ .parse error) :
    engine.HasFailure (engine.renderFailureEvents label failure) ↔
      failure.isReported = true := by
  cases failure with
  | parse error => exact absurd rfl (rendering error)
  | render error =>
    cases limit : error.isNumberLimit <;>
      simp [renderFailureEvents, Failure.isReported, limit, HasFailure, Event.engineLogger?]
  | emptyDelimiters | refused | read =>
    simp [renderFailureEvents, Failure.isReported, HasFailure]

theorem hasFailure_renderCompiled [Memory] (engine : Engine) (template : Template) (datum : Datum)
    (label : String) :
    engine.HasFailure (engine.renderCompiled template datum label).events ↔
      FailsReported (engine.renderCompiled template datum label).outcome := by
  have details := Template.isDetail_render template datum
  rw [renderCompiled, hasFailure_append, or_iff_right (not_hasFailure_of_details details)]
  cases outcome : (template.render datum).outcome with
  | ok text =>
    exact iff_of_false (not_hasFailure_of_details (by simp)) (not_failsReported_ok text)
  | error failure =>
    rw [failsReported_error]
    exact hasFailure_renderFailureEvents (ne_parse_of_render outcome)

theorem hasFailure_render [Memory] (engine : Engine) (source : String) (datum : Datum) :
    engine.HasFailure (engine.render source datum).events ↔
      FailsReported (engine.render source datum).outcome := by
  have compiled := hasFailure_compile engine source
  rw [render]
  cases outcome : (engine.compile source).outcome with
  | error failure =>
    rw [outcome] at compiled
    exact compiled.trans (failsReported_error.trans failsReported_error.symm)
  | ok template =>
    rw [outcome] at compiled
    have silent := mt compiled.mp (not_failsReported_ok template)
    rw [hasFailure_append, or_iff_right silent]
    exact hasFailure_renderCompiled engine template datum textLabel

theorem hasFailure_renderFile [Memory] (engine : Engine) (files : Files.Tree)
    (path encoding : String) (datum : Datum) :
    engine.HasFailure (engine.renderFile files path encoding datum).events ↔
      FailsReported (engine.renderFile files path encoding datum).outcome := by
  rw [renderFile]
  cases Files.readSource files path encoding with
  | error error =>
    refine iff_of_false (not_hasFailure_of_details (by simp)) ?_
    simp [FailsReported, Failure.isReported]
  | ok source =>
    have compiled := hasFailure_compile engine source
    simp only
    cases outcome : (engine.compile source).outcome with
    | error failure =>
      obtain ⟨error, rfl⟩ := exists_parse_of_compile outcome
      exact iff_of_true (hasFailure_append.mpr (.inr (hasFailure_singleton.mpr rfl)))
        (failsReported_error.mpr rfl)
    | ok template =>
      rw [outcome] at compiled
      have silent := mt compiled.mp (not_failsReported_ok template)
      simp only
      rw [hasFailure_append, or_iff_right silent]
      exact hasFailure_renderCompiled engine template datum path

/-! ### Records and outcomes -/

/-- Where errors pass at the logger of an engine, one is written there for every failure that the
engine tells, and for nothing else. -/
theorem alarms_records {settings : LogSettings} {events : List Event}
    (passes : settings.hierarchy.threshold engine.config.logger settings.level ≤ Log.Level.error)
    (has : ∀ event ∈ events, engine.Has event) :
    engine.Alarms (settings.records events) ↔ engine.HasFailure events := by
  constructor
  · rintro ⟨record, written, _, isError⟩
    obtain ⟨event, member, rfl⟩ := List.mem_map.mp written
    have member : event ∈ events := (List.mem_filter.mp member).1
    rcases has event member with detail | told
    · rw [LogSettings.level_record, Event.level_of_isDetail detail] at isError
      cases isError
    · exact ⟨event, member, told⟩
  · rintro ⟨event, member, told⟩
    have isError : (settings.record event).level = Log.Level.error :=
      (settings.level_record event).trans (Event.level_of_engineLogger? told)
    have own := Event.logger_of_engineLogger? told settings
    have enabled : settings.isEnabled engine.config.logger Log.Level.error = true :=
      Bool.and_eq_true_iff.mpr ⟨rfl, decide_eq_true passes⟩
    have written : settings.writes event = true := by
      rw [LogSettings.writes, Event.isTrace_of_engineLogger? told, own, isError, enabled]
      simp
    exact ⟨_, List.mem_map.mpr ⟨event, List.mem_filter.mpr ⟨member, written⟩, rfl⟩, own, isError⟩

theorem reports_of_tells {α : Type} {settings : LogSettings} {logged : Logged (Except Failure α)}
    {outcome : Except Failure α} {events : List Event}
    (passes : settings.hierarchy.threshold engine.config.logger settings.level ≤ Log.Level.error)
    (tells : logged.Tells settings outcome events) (has : ∀ event ∈ events, engine.Has event)
    (told : engine.HasFailure events ↔ FailsReported outcome) : engine.Reports logged := by
  rw [Reports, tells.run]
  exact (alarms_records passes has).trans told

/-- Where errors pass at the logger of an engine, an operation of the engine writes one there if
it comes to a fault of a text or to an error of the renderer that is no limit of numbers, and
else it writes none there. A text that cannot be compiled is at fault. -/
theorem failures_reported [Memory] (engine : Engine) (settings : LogSettings)
    (passes :
      settings.hierarchy.threshold engine.config.logger settings.level ≤ Log.Level.error) :
    (∀ source, engine.Reports (engine.compileLogged settings source) ∧
        ∀ failure, (engine.compileLogged settings source []).1 = .error failure →
          failure.isReported = true) ∧
      (∀ source datum, engine.Reports (engine.renderLogged settings source datum)) ∧
      ∀ files path encoding datum,
        engine.Reports (engine.renderFileLogged settings files path encoding datum) := by
  refine ⟨fun source => ⟨?_, fun failure failed => ?_⟩, fun source datum => ?_,
    fun files path encoding datum => ?_⟩
  · exact reports_of_tells passes (tells_compile settings engine source)
      (has_compile engine source) (hasFailure_compile engine source)
  · rw [(tells_compile settings engine source).run] at failed
    obtain ⟨error, rfl⟩ := exists_parse_of_compile failed
    rfl
  · exact reports_of_tells passes (tells_render settings engine source datum)
      (has_render engine source datum) (hasFailure_render engine source datum)
  · exact reports_of_tells passes (tells_renderFile settings engine files path encoding datum)
      (has_renderFile engine files path encoding datum)
      (hasFailure_renderFile engine files path encoding datum)

open Memory

theorem failures_reported_insert :
    let engine : Engine := .ofConfig { logger := .named (some "app") }
    let run (datum : Datum) := engine.renderLogged {} "\x7b\x7b.\x7d\x7d" datum []
    Log.Hierarchy.initial.threshold engine.config.logger Log.Level.unset ≤ Log.Level.error ∧
      engine.Alarms (run (.sequence [])).2 ∧
      ¬ engine.Alarms (run (.text "a")).2 := by
  have failed : (renderLogged {} (.ofConfig { logger := .named (some "app") })
      "\x7b\x7b.\x7d\x7d" (.sequence []) []).1 =
        .error (.render (.cannotInsertCollection "." "array")) := by with_unfolding_all rfl
  have rendered : (renderLogged {} (.ofConfig { logger := .named (some "app") })
      "\x7b\x7b.\x7d\x7d" (.text "a") []).1 = .ok "a" := by with_unfolding_all rfl
  intro engine run
  have passes : Log.Hierarchy.initial.threshold engine.config.logger Log.Level.unset ≤
      Log.Level.error := by decide +kernel
  have reports := (failures_reported engine {} passes).2.1 "\x7b\x7b.\x7d\x7d"
  refine ⟨passes, (reports _).mpr ⟨_, failed, rfl⟩, fun alarmed => ?_⟩
  obtain ⟨failure, other, _⟩ := (reports _).mp alarmed
  cases rendered.symm.trans other

/-- Rendering a file that is not there fails and reports no error, and so does rendering data that
have no value. -/
theorem failures_pass_unreported :
    let engine : Engine := .ofConfig {}
    let missing := engine.renderFileLogged {} .empty "absent.txt" "utf-8" .none []
    let refused := engine.renderLogged {} "\x7b\x7b.\x7d\x7d" (.foreign "object") []
    Log.Hierarchy.initial.threshold engine.config.logger Log.Level.unset ≤ Log.Level.error ∧
      ((∃ failure, missing.1 = .error failure) ∧ ¬ engine.Alarms missing.2) ∧
      (∃ failure, refused.1 = .error failure) ∧ ¬ engine.Alarms refused.2 := by
  have missing : renderFileLogged {} (.ofConfig {}) .empty "absent.txt" "utf-8" .none [] =
      (.error (.read (.failed (.ofText "absent.txt") (.file .notFound))), []) := by
    with_unfolding_all rfl
  have refused : renderLogged {} (.ofConfig {}) "\x7b\x7b.\x7d\x7d" (.foreign "object") [] =
      (.error (.refused (.foreign "object")), []) := by with_unfolding_all rfl
  have silent {engine : Engine} : ¬ engine.Alarms [] := by simp [Alarms]
  simp only [missing, refused]
  exact ⟨by decide +kernel, ⟨⟨_, rfl⟩, silent⟩, ⟨_, rfl⟩, silent⟩

end Engine

end Stencil
