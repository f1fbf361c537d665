/-
This file lays a rendering out in a line.

Which sections are entered, how often and in which scopes depends on the value alone. So a
template and a value determine a list of turns: a text, an insert, an instruction, or the look-up
of a section's name, each in its scopes, and behind the look-up of a section the turns of its
children for each of its passes. Rendering is doing the turns one after the other up to the first
one that fails, and the turns that are done before that are a part of the list from its
beginning.
-/

import Stencil.Proofs.Walk

namespace Stencil

/-! ### Doing things for the items of a list -/

theorem forEach_append {α : Type} (action : α → RenderState → Walked) (first second : List α)
    (state : RenderState) :
    forEach action (first ++ second) state =
      (forEach action first state).andThen (forEach action second) := by
  induction first generalizing state with
  | nil => rfl
  | cons item rest inductionHypothesis =>
    rw [List.cons_append, forEach_cons, forEach_cons, Walked.andThen_assoc]
    congr 1
    funext next
    exact inductionHypothesis next

theorem forEach_flatMap {α β : Type} (action : β → RenderState → Walked) (parts : α → List β)
    (items : List α) :
    forEach action (items.flatMap parts) =
      forEach (fun item => forEach action (parts item)) items := by
  induction items with
  | nil => rfl
  | cons item rest inductionHypothesis =>
    funext state
    rw [List.flatMap_cons, forEach_append, forEach_cons, inductionHypothesis]

theorem forEach_nothing {α : Type} (items : List α) (state : RenderState) :
    forEach (fun _ next => { state := next }) items state = { state } := by
  induction items with
  | nil => rfl
  | cons item rest inductionHypothesis => exact inductionHypothesis

/-! ### Turns -/

/-- One thing that is done while a template is rendered. -/
inductive Turn where
  | write (content : String)
  | insert (name : Name) (format : Option String) (scopes : Scopes)
  /-- The name of a section is looked up; its children have turns of their own. -/
  | enter (name : Name) (inverted : Bool) (scopes : Scopes)
  | setFormat (typeName format : String)

namespace Turn

variable [Memory]

/-- Does what a turn does. Entering a section is rendering it without its children. -/
def act : Turn → RenderState → Walked
  | write content, state => { state := state.write content }
  | insert name format scopes, state => Token.evaluate (.insert name format) scopes state
  | enter name inverted scopes, state => Token.evaluate (.block name inverted []) scopes state
  | setFormat typeName format, state => { state := state.setFormat typeName format }

/-- The format that a turn sets, with its type. -/
def setting? : Turn → Option (String × String)
  | setFormat typeName format => some (typeName, format)
  | write _ | insert .. | enter .. => none

/-- The turns that are done before one fails. -/
def doneOf : List Turn → RenderState → List Turn
  | [], _ => []
  | turn :: rest, state =>
    match (turn.act state).error with
    | some _ => []
    | none => turn :: doneOf rest (turn.act state).state

end Turn

namespace Token

mutual

/-- The turns of a tree in a stack of scopes. -/
def turns : Token → Scopes → List Turn
  | text content, _ => [.write content]
  | insert name format, scopes => [.insert name format scopes]
  | setFormat typeName format, _ => [.setFormat typeName format]
  | block name inverted children, scopes =>
    .enter name inverted scopes ::
      (passesOf name inverted scopes).flatMap fun pass => turnsAll children pass

/-- The turns of a list of trees in a stack of scopes. -/
def turnsAll : List Token → Scopes → List Turn
  | [], _ => []
  | token :: rest, scopes => turns token scopes ++ turnsAll rest scopes

end

theorem turnsAll_append (first second : List Token) (scopes : Scopes) :
    turnsAll (first ++ second) scopes = turnsAll first scopes ++ turnsAll second scopes := by
  induction first with
  | nil => rfl
  | cons token rest inductionHypothesis =>
    rw [List.cons_append, turnsAll, inductionHypothesis, turnsAll, List.append_assoc]

variable [Memory]

theorem evaluateAll_nil : evaluateAll [] = fun _ state => { state } := by
  funext scopes state
  rw [evaluateAll]

mutual

/-- Rendering a tree is doing its turns. -/
theorem evaluate_eq_turns : ∀ (token : Token) (scopes : Scopes) (state : RenderState),
    token.evaluate scopes state = forEach Turn.act (token.turns scopes) state
  | text content, scopes, state => by rw [turns, forEach_singleton, Turn.act, evaluate]
  | insert name format, scopes, state => by rw [turns, forEach_singleton, Turn.act]
  | setFormat typeName format, scopes, state => by
    rw [turns, forEach_singleton, Turn.act, evaluate]
  | block name inverted children, scopes, state => by
    rw [turns, forEach_cons, forEach_flatMap, Turn.act]
    cases resolved : scopes.resolve name with
    | error error =>
      rw [evaluate_block_of_error resolved, evaluate_block_of_error resolved, Walked.andThen_failed]
    | ok value =>
      rw [evaluate_block resolved, evaluate_block resolved, passesOf, resolved]
      simp only []
      cases sectionPasses name inverted value scopes with
      | error error => rw [Walked.andThen_failed]
      | ok passes =>
        simp only [evaluateAll_nil, forEach_nothing, Walked.andThen_going]
        congr 1
        funext pass next
        exact evaluateAll_eq_turns children pass next

theorem evaluateAll_eq_turns : ∀ (tokens : List Token) (scopes : Scopes) (state : RenderState),
    evaluateAll tokens scopes state = forEach Turn.act (turnsAll tokens scopes) state
  | [], scopes, state => by rw [evaluateAll, turnsAll, forEach_nil]
  | token :: rest, scopes, state => by
    rw [evaluateAll, turnsAll, forEach_append, evaluate_eq_turns token scopes state]
    congr 1
    funext next
    exact evaluateAll_eq_turns rest scopes next

end

end Token

/-- Rendering a template is doing the turns that it has for the value. -/
theorem render_eq_turns [Memory] (tokens : List Token) (formats : FormatTable) (root : Value) :
    render tokens formats root =
      (forEach Turn.act (Token.turnsAll tokens [root]) { formats }).toRendering := by
  rw [render, walk_root, Token.evaluateAll_eq_turns]

/-! ### Turns that are done -/

namespace Turn

/-- Either all turns are done, or those in front of the first one that fails. -/
theorem doneOf_spec [Memory] (turns : List Turn) (state : RenderState) :
    match (forEach act turns state).error with
    | none => doneOf turns state = turns
    | some error => ∃ turn rest, turns = doneOf turns state ++ turn :: rest ∧
        (forEach act (doneOf turns state) state).error = none ∧
        (turn.act (forEach act (doneOf turns state) state).state).error = some error := by
  induction turns generalizing state with
  | nil => rfl
  | cons turn rest inductionHypothesis =>
    rw [forEach_cons, doneOf]
    rcases acted : turn.act state with ⟨behind, failure⟩
    cases failure with
    | some error => exact ⟨turn, rest, rfl, rfl, by rw [forEach_nil, acted]⟩
    | none =>
      rw [Walked.andThen_going]
      have further := inductionHypothesis behind
      cases ended : (forEach act rest behind).error with
      | none =>
        rw [ended] at further
        exact congrArg (turn :: ·) further
      | some error =>
        rw [ended] at further
        obtain ⟨failing, after, split, going, failed⟩ := further
        have first : forEach act (turn :: doneOf rest behind) state =
            forEach act (doneOf rest behind) behind := by
          rw [forEach_cons, acted, Walked.andThen_going]
        refine ⟨failing, after, congrArg (turn :: ·) split, ?_, ?_⟩
        · rw [first, going]
        · rw [first, failed]

end Turn

end Stencil
