/-
This file renders templates against values.

The trees of a template are walked from left to right and from the outside in. A section
looks its name up once and renders its children in a list of scopes: none, one, or one for
each item of a list, from the last to the first where it is inverted. The walk keeps its
open sections on a stack of frames, each with the tokens and the scopes that are still to
come, so the depth of a template is no matter. Text and events gather in a state along
with the table of formats; where the walk fails they stay as they are at that point.

The walk ends because its work is bounded from the start: which sections are entered, and
how often, depends on the value alone and not on what was rendered before.
-/

import Stencil.FormatTable
import Stencil.RenderError
import Stencil.Token

namespace Stencil

/-! ### What a token does -/

/-- What happens while a template is rendered. -/
inductive RenderEvent where
  /-- The name of a section was looked up. -/
  | section (name kind : String) (inverted : Bool)
  /-- The name of an insert was looked up. -/
  | insert (name kind : String)
  /-- The format of a type was set. -/
  | formatSet (typeName format : String)
  deriving DecidableEq, Repr

/-- What has been rendered so far. -/
structure RenderState where
  text : String := ""
  formats : FormatTable := .empty
  /-- The events, the last one first. -/
  events : List RenderEvent := []

namespace RenderState

/-- The state with more text. -/
def write (state : RenderState) (text : String) : RenderState :=
  { state with text := state.text ++ text }

/-- The state with one more event. -/
def note (state : RenderState) (event : RenderEvent) : RenderState :=
  { state with events := event :: state.events }

/-- The state behind an instruction that sets the format of a type. -/
def setFormat (state : RenderState) (typeName format : String) : RenderState :=
  { state with formats := state.formats.set typeName format }.note (.formatSet typeName format)

section

variable (state : RenderState) (text typeName format : String) (event : RenderEvent)

@[simp] theorem text_write : (state.write text).text = state.text ++ text := rfl

@[simp] theorem formats_write : (state.write text).formats = state.formats := rfl

@[simp] theorem events_write : (state.write text).events = state.events := rfl

/-- Writing no text does nothing. -/
@[simp] theorem write_empty : state.write "" = state := by
  simp [write]

@[simp] theorem text_note : (state.note event).text = state.text := rfl

@[simp] theorem formats_note : (state.note event).formats = state.formats := rfl

@[simp] theorem events_note : (state.note event).events = event :: state.events := rfl

@[simp] theorem text_setFormat : (state.setFormat typeName format).text = state.text := rfl

@[simp] theorem formats_setFormat :
    (state.setFormat typeName format).formats = state.formats.set typeName format := rfl

@[simp] theorem events_setFormat :
    (state.setFormat typeName format).events = .formatSet typeName format :: state.events := rfl

end

end RenderState

/-- The format in which a value is inserted: the one given in the tag, or the one set for its
type, or its own. -/
def effectiveFormat (formats : FormatTable) (format : Option String) (object : Formattable) :
    String :=
  match format with
  | some format => format
  | none => (formats.get? object.typeName).getD object.defaultFormat

variable [Memory]

/-- The text that an insert writes for its value. -/
def insertText (formats : FormatTable) (name : Name) (format : Option String) (value : Value) :
    Except RenderError String :=
  match value with
  | .nil => .ok ""
  | .bool value => .ok (Value.boolText value)
  | .string value => .ok value
  | .list _ | .map _ => .error (.cannotInsertCollection name.toString value.kind)
  | .formattable object => object.render (effectiveFormat formats format object)

/-- The scopes in which the children of a section are rendered for its value. -/
def sectionPasses (name : Name) (inverted : Bool) (value : Value) (scopes : Scopes) :
    Except RenderError (List Scopes) :=
  match value with
  | .string _ | .formattable _ | .map _ =>
    if inverted then .error (.cannotInvertSection name.toString value.kind)
    else .ok [value :: scopes]
  | .bool truth => .ok (if truth = inverted then [] else [value :: scopes])
  | .nil => .ok (if inverted then [value :: scopes] else [])
  | .list items => .ok ((if inverted then items.reverse else items).map (· :: scopes))

/-- The scopes in which the children of a section are rendered, once its name is looked up;
none where the walk fails. -/
def passesOf (name : Name) (inverted : Bool) (scopes : Scopes) : List Scopes :=
  match scopes.resolve name with
  | .error _ => []
  | .ok value =>
    match sectionPasses name inverted value scopes with
    | .error _ => []
    | .ok passes => passes

/-! ### The work of a walk -/

namespace Token

mutual

/-- The number of steps that a tree takes in a stack of scopes. -/
def work : Token → Scopes → Nat
  | text _, _ | insert _ _, _ | setFormat _ _, _ => 1
  | block name inverted children, scopes =>
    2 + (passesOf name inverted scopes).foldr
      (fun pass steps => 1 + workAll children pass + steps) 0

/-- The number of steps that a list of trees takes in a stack of scopes. -/
def workAll : List Token → Scopes → Nat
  | [], _ => 0
  | token :: rest, scopes => work token scopes + workAll rest scopes

end

end Token

/-- A section that is being rendered: what is left of its children in the current scopes, and
the scopes in which they are rendered after that. -/
structure Frame where
  pending : List Token
  scopes : Scopes
  body : List Token := []
  later : List Scopes := []

namespace Frame

/-- The number of steps that a frame still takes. -/
def work (frame : Frame) : Nat :=
  Token.workAll frame.pending frame.scopes +
    frame.later.foldr (fun pass steps => 1 + Token.workAll frame.body pass + steps) 0 + 1

/-- The number of steps that a stack of frames still takes. -/
def workAll (frames : List Frame) : Nat := frames.foldr (fun frame steps => frame.work + steps) 0

/-- The frame of a section that has been entered. -/
def entering (children : List Token) (passes : List Scopes) : Frame where
  pending := []
  scopes := []
  body := children
  later := passes

end Frame

/-! ### The walk -/

/-- How a walk ended: what was rendered, and the error at which it stopped, if any. -/
structure Walked where
  state : RenderState
  error : Option RenderError := none

/-- Walks on from a stack of frames, the innermost section first. -/
def walk (frames : List Frame) (state : RenderState) : Walked :=
  match frames with
  | [] => { state }
  | { pending := [], later := [], .. } :: outer => walk outer state
  | { pending := [], later := pass :: later, body, .. } :: outer =>
    walk ({ pending := body, scopes := pass, body, later } :: outer) state
  | { pending := token :: pending, scopes, body, later } :: outer =>
    let rest := { pending, scopes, body, later } :: outer
    match token with
    | .text content => walk rest (state.write content)
    | .setFormat typeName format => walk rest (state.setFormat typeName format)
    | .insert name format =>
      match scopes.resolve name with
      | .error error => { state, error := some (.lookup error) }
      | .ok value =>
        let state := state.note (.insert name.toString value.kind)
        match insertText state.formats name format value with
        | .error error => { state, error := some error }
        | .ok text => walk rest (state.write text)
    | .block name inverted children =>
      match _resolved : scopes.resolve name with
      | .error error => { state, error := some (.lookup error) }
      | .ok value =>
        let state := state.note (.section name.toString value.kind inverted)
        match _entered : sectionPasses name inverted value scopes with
        | .error error => { state, error := some error }
        | .ok passes => walk (.entering children passes :: rest) state
  termination_by Frame.workAll frames
  decreasing_by
    all_goals
      simp only [Frame.workAll, Frame.work, Frame.entering, Token.workAll, Token.work, passesOf,
        List.foldr_cons, List.foldr_nil, *]
      omega

/-- What rendering a template gives: the text or the error, the table of formats behind it,
and the events in order. Where rendering fails the table keeps what was set before. -/
structure Rendering where
  outcome : Except RenderError String
  formats : FormatTable
  events : List RenderEvent

namespace Walked

/-- What a walk over a whole template gives. -/
def toRendering (walked : Walked) : Rendering where
  outcome :=
    match walked.error with
    | some error => .error error
    | none => .ok walked.state.text
  formats := walked.state.formats
  events := walked.state.events.reverse

end Walked

/-- Renders a template against a value, with a table of formats. -/
def render (tokens : List Token) (formats : FormatTable) (root : Value) : Rendering :=
  (walk [{ pending := tokens, scopes := [root] }] { formats }).toRendering

end Stencil
