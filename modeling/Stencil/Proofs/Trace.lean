/-
This file proves that the trace of a rendering is what the rendering did.

A turn tells at most one thing, and which one is settled by its name and its scopes alone: a look-up
that comes to a value is told, whatever is done with that value afterwards, a look-up that fails is
not, and a format that is set is told. Rendering comes to its turns one after the other up to the
first one that fails, and that one is still come to. So the events of a rendering are what the
turns that it comes to tell, and where traces and records for debugging pass, each of these events
has its record.
-/

import Stencil.Proofs.Journal
import Stencil.Proofs.Turns

namespace Stencil

namespace Turn

/-! ### What a turn tells -/

/-- What a turn tells, if anything. -/
def told? : Turn → Option RenderEvent
  | write _ => none
  | insert name _ scopes =>
    match scopes.resolve name with
    | .error _ => none
    | .ok value => some (.insert name.toString value.kind)
  | enter name inverted scopes =>
    match scopes.resolve name with
    | .error _ => none
    | .ok value => some (.section name.toString value.kind inverted)
  | setFormat typeName format => some (.formatSet typeName format)

variable [Memory]

/-- A turn adds what it tells to the events, also where it fails behind that. -/
theorem events_act (turn : Turn) (state : RenderState) :
    (turn.act state).state.events = turn.told?.toList ++ state.events := by
  cases turn with
  | write content => exact state.events_write content
  | setFormat typeName format => exact state.events_setFormat typeName format
  | insert name format scopes =>
    rw [act, told?]
    cases resolved : scopes.resolve name with
    | error error =>
      rw [evaluate_insert_of_error resolved]
      rfl
    | ok value =>
      rw [evaluate_insert resolved]
      split <;> simp
  | enter name inverted scopes =>
    rw [act, told?]
    cases resolved : scopes.resolve name with
    | error error =>
      rw [evaluate_block_of_error resolved]
      rfl
    | ok value =>
      rw [evaluate_block resolved]
      cases sectionPasses name inverted value scopes with
      | error error => exact state.events_note _
      | ok passes =>
        simp only [Token.evaluateAll_nil, forEach_nothing]
        exact state.events_note _

/-! ### The turns that are come to -/

/-- The turns that are come to: those that are done, and the one that fails behind them. -/
def visited : List Turn → RenderState → List Turn
  | [], _ => []
  | turn :: rest, state =>
    turn :: match (turn.act state).error with
      | some _ => []
      | none => visited rest (turn.act state).state

theorem visited_eq_take (turns : List Turn) (state : RenderState) :
    visited turns state = turns.take ((doneOf turns state).length + 1) := by
  induction turns generalizing state with
  | nil => rfl
  | cons turn rest inductionHypothesis =>
    rw [visited, doneOf, List.take_succ_cons]
    cases (turn.act state).error with
    | some error => rfl
    | none =>
      simp only [inductionHypothesis]
      rfl

/-- All turns are come to where none fails, and else those that are done and the failing one. -/
theorem visited_spec (turns : List Turn) (state : RenderState) :
    match (forEach act turns state).error with
    | none => visited turns state = turns
    | some error => ∃ failing, visited turns state = doneOf turns state ++ [failing] ∧
        (forEach act (doneOf turns state) state).error = none ∧
        (failing.act (forEach act (doneOf turns state) state).state).error = some error := by
  have done := doneOf_spec turns state
  rw [visited_eq_take]
  split
  · rename_i going
    rw [going] at done
    rw [done, List.take_of_length_le (Nat.le_succ _)]
  · rename_i error stopped
    rw [stopped] at done
    obtain ⟨failing, rest, split, going, fails⟩ := done
    refine ⟨failing, ?_, going, fails⟩
    calc turns.take ((doneOf turns state).length + 1)
        = (doneOf turns state ++ failing :: rest).take ((doneOf turns state).length + 1) :=
          congrArg _ split
      _ = doneOf turns state ++ [failing] := List.take_length_add_append 1

/-- Doing turns adds what the turns tell that are come to. -/
theorem events_forEach (turns : List Turn) (state : RenderState) :
    (forEach act turns state).state.events =
      ((visited turns state).filterMap told?).reverse ++ state.events := by
  induction turns generalizing state with
  | nil => rfl
  | cons turn rest inductionHypothesis =>
    have first := events_act turn state
    rw [forEach_cons, visited]
    rcases acted : turn.act state with ⟨behind, failure⟩
    rw [acted] at first
    cases failure with
    | some error =>
      rw [Walked.andThen_failed, first]
      cases told : turn.told? <;> simp [told]
    | none =>
      rw [Walked.andThen_going, inductionHypothesis, first]
      cases told : turn.told? <;> simp [told]

end Turn

/-! ### The trace of a rendering -/

/-- Where traces and records for debugging pass, a rendering writes a record for each look-up that
came to a value and for each format that was set, in the order of the turns that it came to. It
comes to all turns of the template, or to those in front of the one at which it fails and to that
one. -/
theorem renderLogged_records [Memory] {settings : LogSettings} (tokens : List Token)
    (formats : FormatTable) (root : Value) (tracing : Log.isTracing settings.tracing = true)
    (passes : settings.isEnabled settings.rendering Log.Level.debug = true) :
    let turns := Token.turnsAll tokens [root]
    let visits := Turn.visited turns { formats }
    let done := Turn.doneOf turns { formats }
    visits <+: turns ∧
      (render tokens formats root).events = visits.filterMap Turn.told? ∧
      (∀ written, renderLogged settings tokens formats root written =
        (((render tokens formats root).outcome, (render tokens formats root).formats),
          written ++ (visits.filterMap Turn.told?).map fun event =>
            settings.record (.rendered event))) ∧
      match (render tokens formats root).outcome with
      | .ok _ => visits = turns
      | .error error => ∃ failing, visits = done ++ [failing] ∧
          (forEach Turn.act done { formats }).error = none ∧
          (failing.act (forEach Turn.act done { formats }).state).error = some error := by
  intro turns visits done
  have rendered : render tokens formats root = (forEach Turn.act turns { formats }).toRendering :=
    render_eq_turns tokens formats root
  have events : (render tokens formats root).events = visits.filterMap Turn.told? := by
    rw [rendered, Walked.toRendering, Turn.events_forEach, List.append_nil, List.reverse_reverse]
  have prefixed : visits <+: turns := by
    show Turn.visited turns { formats } <+: turns
    rw [Turn.visited_eq_take]
    exact List.take_prefix ..
  refine ⟨prefixed, events, fun written => ?_, ?_⟩
  · have every : ∀ event ∈ (visits.filterMap Turn.told?).map Event.rendered,
        settings.writes event = true := by
      intro event member
      obtain ⟨event, _, rfl⟩ := List.mem_map.mp member
      rw [LogSettings.writes, tracing, Bool.true_or, Bool.true_and]
      exact passes
    rw [tells_render settings tokens formats root written, events, LogSettings.records,
      List.filter_eq_self.mpr every, List.map_map]
    rfl
  · have spec := Turn.visited_spec turns { formats }
    rw [rendered, Walked.toRendering]
    split at spec
    · rename_i going
      rw [going]
      exact spec
    · rename_i error stopped
      rw [stopped]
      exact spec

open Memory

/-- An inverted section over a list, whose last item is inserted first. The insert of the other item
is refused behind its look-up, and the format behind the section is not set. -/
theorem renderLogged_records_refused :
    let settings : LogSettings := { level := Log.Level.debug, tracing := some "1" }
    let tokens : List Token :=
      [.block { segments := ["items"] } true [.insert .self none], .setFormat "t" "f"]
    let root : Value := .map [("items", .list [.list [], .string "x"])]
    Log.isTracing settings.tracing = true ∧
      settings.isEnabled settings.rendering Log.Level.debug = true ∧
      (renderLogged settings tokens .empty root []).2 =
        [.section "items" "array" true, .insert "." "string", .insert "." "array"].map
          fun event => settings.record (.rendered event) := by
  intro settings tokens root
  have tracing : Log.isTracing settings.tracing = true := by decide
  have governed : Log.Hierarchy.initial.isGoverned .rendering = true :=
    Log.Hierarchy.isGoverned_child _ (by decide)
  have passes : settings.isEnabled settings.rendering Log.Level.debug = true := by
    show Log.Hierarchy.initial.isEnabled .rendering Log.Level.debug Log.Level.debug = true
    rw [Log.Hierarchy.isEnabled, Log.Hierarchy.threshold, governed]
    decide
  refine ⟨tracing, passes, ?_⟩
  obtain ⟨-, -, records, -⟩ := renderLogged_records tokens .empty root tracing passes
  rw [records]
  with_unfolding_all rfl

end Stencil
