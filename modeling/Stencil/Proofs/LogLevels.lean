/-
This file proves that logging never influences what an operation comes to, and that a level only
filters what is written.

The log calls of an operation stand in the middle of it, where an operation may also fail. Two
runs under different settings make the same log calls all the same: the events of an operation do
not depend on the settings. So the records of the one run are among those of the other, and the
level of a record tells whether it is. That holds for loggers that the base governs: another
logger has a level of its own.
-/

import Stencil.Proofs.Logged

namespace Stencil

/-! ### The records of a trace -/

/-- A record traces the walk of the renderer: it is for debugging and has the fields of what it
traces. -/
def Log.Record.isTrace (record : Log.Record) : Bool :=
  match record.context with
  | .object _ => decide (record.level = Log.Level.debug)
  | _ => false

theorem LogSettings.isTrace_record (settings : LogSettings) (event : Event) :
    (settings.record event).isTrace = event.isTrace := by
  cases event with
  | rendered event => cases event <;> rfl
  | _ => rfl

/-! ### Governed loggers -/

namespace Log.Hierarchy

/-- At a governed logger every record passes that is no less urgent than the level. -/
theorem isEnabled_of_isGoverned {hierarchy : Hierarchy} {logger : Logger}
    (governed : hierarchy.isGoverned logger = true) {level : Level} (positive : 1 ≤ level)
    (least : Level) :
    hierarchy.isEnabled logger level least = decide (level ≤ least) := by
  have isSet : level ≠ Level.unset := by
    rintro rfl
    exact absurd positive (by decide)
  have threshold : hierarchy.threshold logger level = level := by
    simp [Hierarchy.threshold, governed, isSet]
  have passes : 0 < least ∧ level ≤ least ↔ level ≤ least :=
    and_iff_right_of_imp fun above =>
      Int.lt_of_lt_of_le Int.zero_lt_one (Int.le_trans positive above)
  rw [isEnabled, threshold, ← Bool.decide_and]
  exact decide_eq_decide.mpr passes

theorem isGoverned_compiling (hierarchy : Hierarchy) :
    hierarchy.isGoverned .compiling = true := hierarchy.isGoverned_child (by decide)

theorem isGoverned_rendering (hierarchy : Hierarchy) :
    hierarchy.isGoverned .rendering = true := hierarchy.isGoverned_child (by decide)

/-- The name of this logger has two parts below the base; it is governed whether or not there is
a logger in between. -/
theorem isGoverned_loading (hierarchy : Hierarchy) :
    hierarchy.isGoverned .loading = true := by
  have between (part : List Char) (plain : '.' ∉ part) :
      hierarchy.leadsToBase (part ++ '.' :: Logger.baseName.toList.reverse) = true := by
    rw [leadsToBase_append hierarchy plain, leadsToBase_dot_base]
  have reversed : Logger.loading.name.toList.reverse =
      "redaol".toList ++ '.' :: 'o' :: ("i".toList ++ '.' :: Logger.baseName.toList.reverse) := by
    decide
  rw [isGoverned, reversed, leadsToBase_append hierarchy (by decide), leadsToBase_dot,
    between _ (by decide), ← List.cons_append, between _ (by decide), ite_self, Bool.or_true,
    Bool.or_true]

end Log.Hierarchy

/-! ### The same events under other settings -/

namespace LogSettings

/-- The settings with another level, and with another setting for tracing. -/
def under (settings : LogSettings) (level : Log.Level) (tracing : Option String) :
    LogSettings :=
  { settings with level, tracing }

theorem record_under (settings : LogSettings) (level : Log.Level) (tracing : Option String) :
    (settings.under level tracing).record = settings.record := rfl

/-- The base governs the loggers of the library and that of an engine. -/
structure Governs (settings : LogSettings) (engine : Log.Logger) : Prop where
  compiling : settings.hierarchy.isGoverned settings.compiling = true
  rendering : settings.hierarchy.isGoverned settings.rendering = true
  loading : settings.hierarchy.isGoverned settings.loading = true
  engine : settings.hierarchy.isGoverned engine = true

variable {settings : LogSettings} {engine : Log.Logger}

theorem Governs.isGoverned_record (governs : settings.Governs engine) {event : Event}
    (own : ∀ logger, event.engineLogger? = some logger → logger = engine) :
    settings.hierarchy.isGoverned (settings.record event).logger = true := by
  cases event with
  | compiled | redelimited => exact governs.compiling
  | rendered => exact governs.rendering
  | loaded | loadFailed => exact governs.loading
  | engineCompileFailed logger | engineFileFailed logger | engineRenderFailed logger =>
    exact own logger rfl ▸ governs.engine

/-- The log call of an event writes a record where tracing lets it pass and its level does. -/
theorem Governs.writes_under (governs : settings.Governs engine) {event : Event}
    (own : ∀ logger, event.engineLogger? = some logger → logger = engine) {level : Log.Level}
    (positive : 1 ≤ level) (tracing : Option String) :
    (settings.under level tracing).writes event =
      ((Log.isTracing tracing || !event.isTrace) &&
        decide (level ≤ (settings.record event).level)) :=
  congrArg ((Log.isTracing tracing || !event.isTrace) && ·)
    (Log.Hierarchy.isEnabled_of_isGoverned (governs.isGoverned_record own) positive _)

/-- The records under a level are those under the least one whose own level is no less. -/
theorem Governs.records_level (governs : settings.Governs engine) {events : List Event}
    (own : ∀ event ∈ events, ∀ logger, event.engineLogger? = some logger → logger = engine)
    {level : Log.Level} (positive : 1 ≤ level) (tracing : Option String) :
    (settings.under level tracing).records events =
      ((settings.under 1 tracing).records events).filter (level ≤ ·.level) := by
  rw [records, records, List.filter_map, List.filter_filter, record_under, record_under]
  refine congrArg (List.map settings.record) (List.filter_congr fun event member => ?_)
  have above : level ≤ (settings.record event).level → 1 ≤ (settings.record event).level :=
    Int.le_trans positive
  rw [governs.writes_under (own event member) positive,
    governs.writes_under (own event member) Int.le_rfl, Bool.and_left_comm]
  congr 1
  rw [Function.comp_apply, Bool.eq_iff_iff]
  simpa using above

/-- The records without tracing are those with it, less the ones that trace the walk. -/
theorem records_untraced (settings : LogSettings) (events : List Event) (level : Log.Level)
    {tracing : Option String} (off : tracing ≠ some "1") :
    (settings.under level tracing).records events =
      ((settings.under level (some "1")).records events).filter (!·.isTrace) := by
  have untraced : Log.isTracing tracing = false := beq_eq_false_iff_ne.mpr off
  rw [records, records, List.filter_map, List.filter_filter, record_under, record_under]
  refine congrArg (List.map settings.record) (List.filter_congr fun event _ => ?_)
  rw [Function.comp_apply, isTrace_record]
  show ((Log.isTracing tracing || !event.isTrace) && _) = _
  rw [untraced]
  cases event.isTrace <;> rfl

end LogSettings

/-! ### Sessions -/

namespace Engine

theorem Has.own {engine : Engine} {event : Event} (has : engine.Has event) (logger : Log.Logger)
    (told : event.engineLogger? = some logger) : logger = engine.config.logger := by
  rcases has with detail | own
  · rw [Event.engineLogger?_of_isDetail detail] at told
    cases told
  · exact Option.some.inj (told.symm.trans own)

namespace Session

/-- An engine tells its failures to its own logger only. -/
theorem own_of_perform [Memory] (files : Files.Tree) (session : Session) (request : Request) :
    ∀ event ∈ (session.perform files request).events, ∀ logger,
      event.engineLogger? = some logger → logger = session.engine.config.logger := by
  cases request with
  | compile source =>
    have has := has_compile session.engine source
    rw [perform]
    split <;> exact fun event member => (has event member).own
  | render source datum =>
    exact fun event member => (has_render session.engine source datum event member).own
  | renderFile path encoding datum =>
    exact fun event member =>
      (has_renderFile session.engine files path encoding datum event member).own
  | template request =>
    intro event member logger told
    have none := Collection.engineLogger?_perform files session.compiled request event member
    cases none.symm.trans told
  | setFormat | config => exact fun event member => by cases member

/-- With the loggers of the library an operation writes the records of its events that a filter of
the same level lets pass. -/
theorem performLogged_eq_filter [Memory] (files : Files.Tree) (session : Session)
    (request : Request) (hierarchy : Log.Hierarchy) (level : Log.Level) (tracing : Option String)
    (governed : hierarchy.isGoverned session.engine.config.logger = true) :
    session.performLogged { level, tracing, hierarchy } files request [] =
      ((session.perform files request).answer,
        EventFilter.records
          { level, isTracing := Log.isTracing tracing, loggers := hierarchy }
          (session.perform files request).events) := by
  let settings : LogSettings := { level, tracing, hierarchy }
  have governs : settings.Governs session.engine.config.logger :=
    ⟨hierarchy.isGoverned_compiling, hierarchy.isGoverned_rendering,
      hierarchy.isGoverned_loading, governed⟩
  have record : settings.record = Event.record := by
    funext event
    cases event <;> rfl
  rw [(tells_perform settings files session request).run, LogSettings.records, record,
    EventFilter.records]
  refine congrArg (Prod.mk _ <| List.map Event.record ·)
    (List.filter_congr fun event member => ?_)
  have reaches := governs.isGoverned_record (own_of_perform files session request event member)
  rw [record] at reaches
  rw [LogSettings.writes, EventFilter.keeps, EventFilter.passes, record]
  show _ = ((_ || _) && (hierarchy.isGoverned event.record.logger && _))
  rw [reaches, Bool.true_and]
  rfl

/-- Logging has no part in what an operation comes to, and a level only filters. Whatever the level
and the setting for tracing are, a request is answered alike and leaves the same session behind.
Under a level the records are those under the least level whose own level is no less, in their
order; and without tracing they are those with it, less the ones that trace the walk. -/
theorem logging_only_filters [Memory] (files : Files.Tree) (session : Session) (request : Request)
    (settings : LogSettings) (governs : settings.Governs session.engine.config.logger) :
    let run (level : Log.Level) (tracing : Option String) :=
      session.performLogged (settings.under level tracing) files request []
    (∀ level tracing, (run level tracing).1 = (session.perform files request).answer) ∧
      (∀ level tracing, 1 ≤ level →
        (run level tracing).2 = (run 1 tracing).2.filter (level ≤ ·.level)) ∧
      ∀ level tracing, tracing ≠ some "1" →
        (run level tracing).2 = (run level (some "1")).2.filter (!·.isTrace) := by
  intro run
  have told (level : Log.Level) (tracing : Option String) : run level tracing =
      ((session.perform files request).answer,
        (settings.under level tracing).records (session.perform files request).events) :=
    (tells_perform (settings.under level tracing) files session request).run
  refine ⟨fun level tracing => ?_, fun level tracing positive => ?_,
    fun level tracing off => ?_⟩
  · rw [told]
  · rw [told, told]
    exact governs.records_level (own_of_perform files session request) positive tracing
  · rw [told, told]
    exact settings.records_untraced (session.perform files request).events level off

open Memory

theorem logging_only_filters_failing :
    let session : Session := { engine := .ofConfig { logger := .named (some "app") } }
    let settings : LogSettings := { hierarchy := .ofNames ["app", "io"] }
    let request : Request :=
      .render "\x7b\x7b#.\x7d\x7d\x7b\x7b.\x7d\x7d\x7b\x7b/.\x7d\x7d" (.sequence [.sequence []])
    let run (level : Log.Level) (tracing : Option String) :=
      session.performLogged (settings.under level tracing) .empty request []
    settings.Governs session.engine.config.logger ∧
      (run 1 (some "1")).2.map (fun record => (record.level, record.isTrace)) =
        [(10, false), (10, true), (10, true), (40, false)] ∧
      (run 1 none).2 = (run 1 (some "1")).2.filter (!·.isTrace) ∧
      (run 30 none).2 = (run 1 none).2.filter (30 ≤ ·.level) ∧
      (run 0 none).1 = (run 10 (some "1")).1 := by
  have written : (performLogged
      (LogSettings.under { hierarchy := .ofNames ["app", "io"] } 1 (some "1")) .empty
      { engine := .ofConfig { logger := .named (some "app") } }
      (.render "\x7b\x7b#.\x7d\x7d\x7b\x7b.\x7d\x7d\x7b\x7b/.\x7d\x7d" (.sequence [.sequence []]))
      []).2.map (fun record => (record.level, record.isTrace)) =
        [(10, false), (10, true), (10, true), (40, false)] := by decide +kernel
  intro session settings request run
  have governs : settings.Governs session.engine.config.logger := {
    compiling := settings.hierarchy.isGoverned_compiling
    rendering := settings.hierarchy.isGoverned_rendering
    loading := settings.hierarchy.isGoverned_loading
    engine := settings.hierarchy.isGoverned_child (by decide) }
  obtain ⟨answers, levels, untraced⟩ :=
    logging_only_filters .empty session request settings governs
  exact ⟨governs, written, untraced 1 none (by decide), levels 30 none (by decide),
    (answers 0 none).trans (answers 10 (some "1")).symm⟩

end Session

end Engine

end Stencil
