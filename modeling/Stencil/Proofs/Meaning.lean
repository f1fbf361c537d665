/-
This file says what a template means, by recursion on its trees.

A list of trees is rendered tree by tree, in a stack of scopes and with a state that each tree
takes from the one before it. A section looks its name up once and renders its children for
the value that was found, one time, no time, or one time for each item of a list. The state
carries the text, the table of formats and the events, and what each change of it leaves of the
three stands beside `Stencil.RenderState`; an error ends the rendering at once and leaves the state
as it is there. Nothing here keeps a stack of what is still to come: that the walk of
`Stencil.Render` comes to the same is proved in `Stencil.Proofs.Walk`.
-/

import Stencil.Proofs.ScopeChain
import Stencil.Render

namespace Stencil

/-! ### One thing after the other -/

namespace Walked

/-- Goes on behind a part of a template, unless it ended in an error. -/
def andThen (first : Walked) (rest : RenderState → Walked) : Walked :=
  match first.error with
  | some _ => first
  | none => rest first.state

@[simp] theorem andThen_going (state : RenderState) (rest : RenderState → Walked) :
    ({ state } : Walked).andThen rest = rest state := rfl

@[simp] theorem andThen_failed (state : RenderState) (error : RenderError)
    (rest : RenderState → Walked) :
    ({ state, error := some error } : Walked).andThen rest = { state, error := some error } := rfl

theorem andThen_assoc (first : Walked) (second third : RenderState → Walked) :
    (first.andThen second).andThen third =
      first.andThen fun state => (second state).andThen third := by
  obtain ⟨state, error⟩ := first
  cases error <;> rfl

theorem andThen_nothing (walked : Walked) : walked.andThen (fun state => { state }) = walked := by
  obtain ⟨state, error⟩ := walked
  cases error <;> rfl

end Walked

/-- Does one thing after the other for the items of a list, up to the first error. -/
def forEach {α : Type} (action : α → RenderState → Walked) : List α → RenderState → Walked
  | [], state => { state }
  | item :: rest, state => (action item state).andThen (forEach action rest)

@[simp] theorem forEach_nil {α : Type} (action : α → RenderState → Walked)
    (state : RenderState) : forEach action [] state = { state } := rfl

theorem forEach_cons {α : Type} (action : α → RenderState → Walked) (item : α)
    (rest : List α) (state : RenderState) :
    forEach action (item :: rest) state = (action item state).andThen (forEach action rest) := rfl

@[simp] theorem forEach_singleton {α : Type} (action : α → RenderState → Walked) (item : α)
    (state : RenderState) : forEach action [item] state = action item state :=
  (action item state).andThen_nothing

theorem forEach_map {α β : Type} (action : β → RenderState → Walked) (change : α → β)
    (items : List α) (state : RenderState) :
    forEach action (items.map change) state =
      forEach (fun item => action (change item)) items state := by
  induction items generalizing state with
  | nil => rfl
  | cons item rest inductionHypothesis =>
    simp only [List.map_cons, forEach_cons]
    congr 1
    funext next
    exact inductionHypothesis next

/-! ### Inserts -/

/-- The format of an inserted value: the one in the tag before the one in the table, and that
before the one of the value itself. -/
def formatFor (formats : FormatTable) (inTag : Option String) (object : Formattable) : String :=
  match inTag, formats.get? object.typeName with
  | some format, _ => format
  | none, some format => format
  | none, none => object.defaultFormat

variable [Memory]

/-- Inserts a value that was looked up. -/
def insertValue (name : Name) (format : Option String) (value : Value) (state : RenderState) :
    Walked :=
  match value with
  | .bool true => { state := state.write "true" }
  | .bool false => { state := state.write "false" }
  | .string text => { state := state.write text }
  | .nil => { state }
  | .list _ => { state, error := some (.cannotInsertCollection name.toString "array") }
  | .map _ => { state, error := some (.cannotInsertCollection name.toString "map") }
  | .formattable object =>
    match object.render (formatFor state.formats format object) with
    | .ok text => { state := state.write text }
    | .error error => { state, error := some error }

/-! ### Trees -/

/-- Renders the children of a section for the value that its name reached. -/
def enterValue (name : Name) (inverted : Bool) (body : Value → RenderState → Walked)
    (value : Value) (state : RenderState) : Walked :=
  match value, inverted with
  | .string _, false | .formattable _, false | .map _, false => body value state
  | .string _, true | .formattable _, true | .map _, true =>
    { state, error := some (.cannotInvertSection name.toString value.kind) }
  | .bool truth, _ => if truth != inverted then body value state else { state }
  | .nil, true => body value state
  | .nil, false => { state }
  | .list items, false => forEach body items state
  | .list items, true => forEach body items.reverse state

namespace Token

mutual

/-- Renders a tree in a stack of scopes. -/
def evaluate : Token → Scopes → RenderState → Walked
  | text content, _, state => { state := state.write content }
  | setFormat typeName format, _, state => { state := state.setFormat typeName format }
  | insert name format, scopes, state =>
    match scopes.seek name.segments with
    | .error error => { state, error := some (.lookup error) }
    | .ok value =>
      insertValue name format value (state.note (.insert name.toString value.kind))
  | block name inverted children, scopes, state =>
    match scopes.seek name.segments with
    | .error error => { state, error := some (.lookup error) }
    | .ok value =>
      enterValue name inverted (fun scope => evaluateAll children (scope :: scopes)) value
        (state.note (.section name.toString value.kind inverted))

/-- Renders a list of trees in a stack of scopes, from the first to the last. -/
def evaluateAll : List Token → Scopes → RenderState → Walked
  | [], _, state => { state }
  | token :: rest, scopes, state =>
    (evaluate token scopes state).andThen (evaluateAll rest scopes)

end

end Token

/-- What a template means for a value: its text or the first error, the table of formats behind
it, and what happened on the way. -/
def meaning (tokens : List Token) (formats : FormatTable) (root : Value) : Rendering :=
  (Token.evaluateAll tokens [root] { formats }).toRendering

end Stencil
