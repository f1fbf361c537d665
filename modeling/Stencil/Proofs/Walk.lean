/-
This file proves that walking a template with a stack of frames comes to what the template
means.

The walk keeps, for each section that it is in, the tokens and the scopes that are still to
come. What such a stack still has to do is a meaning too: the pending tokens of the innermost
frame, then its later scopes, then the frames around it. Every step of the walk leaves that
meaning as it is, and since the walk ends, it ends there, with the same text or the same first
error, the same table of formats and the same events.
-/

import Stencil.Proofs.Meaning

namespace Stencil

/-! ### What a single token does -/

theorem formatFor_eq (formats : FormatTable) (inTag : Option String) (object : Formattable) :
    formatFor formats inTag object = effectiveFormat formats inTag object := by
  unfold formatFor effectiveFormat
  cases inTag with
  | some format => rfl
  | none => cases formats.get? object.typeName <;> rfl

variable [Memory]

/-- An insert writes the text of its value, or ends in the error that stands for it. -/
theorem insertValue_eq (name : Name) (format : Option String) (value : Value)
    (state : RenderState) :
    insertValue name format value state =
      match insertText state.formats name format value with
      | .error error => { state, error := some error }
      | .ok text => { state := state.write text } := by
  cases value with
  | nil => simp [insertValue, insertText]
  | bool truth => cases truth <;> rfl
  | string text => rfl
  | list items => rfl
  | map entries => rfl
  | formattable object =>
    simp only [insertValue, insertText, formatFor_eq]
    cases object.render (effectiveFormat state.formats format object) <;> rfl

/-- A section renders its children in each of its passes, or ends in the error that stands for
them. -/
theorem enterValue_eq (name : Name) (inverted : Bool) (children : List Token) (value : Value)
    (scopes : Scopes) (state : RenderState) :
    enterValue name inverted (fun scope => Token.evaluateAll children (scope :: scopes)) value
        state =
      match sectionPasses name inverted value scopes with
      | .error error => { state, error := some error }
      | .ok passes => forEach (Token.evaluateAll children) passes state := by
  cases value with
  | nil => cases inverted <;> simp [enterValue, sectionPasses]
  | bool truth => cases truth <;> cases inverted <;> simp [enterValue, sectionPasses]
  | string text => cases inverted <;> simp [enterValue, sectionPasses]
  | list items =>
    cases inverted
    · simp [enterValue, sectionPasses, forEach_map]
    · simp only [enterValue, sectionPasses, if_true, forEach_map]
  | map entries => cases inverted <;> simp [enterValue, sectionPasses]
  | formattable object => cases inverted <;> simp [enterValue, sectionPasses]

/-! ### What a stack of frames still has to do -/

/-- Renders what is left of a section: its pending tokens, and its children in the scopes that
come after the current ones. -/
def Frame.finish (frame : Frame) (state : RenderState) : Walked :=
  (Token.evaluateAll frame.pending frame.scopes state).andThen
    (forEach (Token.evaluateAll frame.body) frame.later)

/-- A frame that has just been entered has all its passes before it. -/
theorem Frame.finish_entering (children : List Token) (passes : List Scopes)
    (state : RenderState) :
    (Frame.entering children passes).finish state =
      forEach (Token.evaluateAll children) passes state := rfl

/-- The next token of the innermost frame comes first, and the rest of the stack after it. -/
theorem finish_token (token : Token) (pending body : List Token) (scopes : Scopes)
    (later : List Scopes) (outer : List Frame) (state : RenderState) :
    forEach Frame.finish ({ pending := token :: pending, scopes, body, later } :: outer) state =
      (token.evaluate scopes state).andThen
        (forEach Frame.finish ({ pending, scopes, body, later } :: outer)) := by
  simp only [forEach_cons, Frame.finish, Token.evaluateAll, Walked.andThen_assoc]
  congr 1
  funext next
  rw [forEach_cons, Frame.finish, Walked.andThen_assoc]

/-- A frame whose tokens are done goes on with its next pass. -/
theorem finish_pass (pass scopes : Scopes) (later : List Scopes) (body : List Token)
    (outer : List Frame) (state : RenderState) :
    forEach Frame.finish ({ pending := [], scopes, body, later := pass :: later } :: outer) state =
      forEach Frame.finish ({ pending := body, scopes := pass, body, later } :: outer) state := rfl

theorem evaluate_insert_of_error {name : Name} {scopes : Scopes} {error : LookupError}
    (failed : scopes.resolve name = .error error) (format : Option String) (state : RenderState) :
    Token.evaluate (.insert name format) scopes state =
      { state, error := some (.lookup error) } := by
  rw [Scopes.resolve, Scopes.lookup_eq_seek] at failed
  rw [Token.evaluate, failed]

theorem evaluate_block_of_error {name : Name} {scopes : Scopes} {error : LookupError}
    (failed : scopes.resolve name = .error error) (inverted : Bool) (children : List Token)
    (state : RenderState) :
    Token.evaluate (.block name inverted children) scopes state =
      { state, error := some (.lookup error) } := by
  rw [Scopes.resolve, Scopes.lookup_eq_seek] at failed
  rw [Token.evaluate, failed]

/-- An insert whose name is looked up writes the text of its value, or ends in an error. -/
theorem evaluate_insert {name : Name} {scopes : Scopes} {value : Value}
    (resolved : scopes.resolve name = .ok value) (format : Option String) (state : RenderState) :
    Token.evaluate (.insert name format) scopes state =
      match insertText (state.note (.insert name.toString value.kind)).formats name format
          value with
      | .error error =>
        { state := state.note (.insert name.toString value.kind), error := some error }
      | .ok text => { state := (state.note (.insert name.toString value.kind)).write text } := by
  rw [Scopes.resolve, Scopes.lookup_eq_seek] at resolved
  rw [Token.evaluate, resolved]
  exact insertValue_eq name format value _

/-- A section whose name is looked up renders its children in its passes, or ends in an error. -/
theorem evaluate_block {name : Name} {scopes : Scopes} {value : Value}
    (resolved : scopes.resolve name = .ok value) (inverted : Bool) (children : List Token)
    (state : RenderState) :
    Token.evaluate (.block name inverted children) scopes state =
      match sectionPasses name inverted value scopes with
      | .error error =>
        { state := state.note (.section name.toString value.kind inverted), error := some error }
      | .ok passes =>
        forEach (Token.evaluateAll children) passes
          (state.note (.section name.toString value.kind inverted)) := by
  rw [Scopes.resolve, Scopes.lookup_eq_seek] at resolved
  rw [Token.evaluate, resolved]
  exact enterValue_eq name inverted children value scopes _

/-- The walk from a stack of frames finishes them one after the other, the innermost first. -/
theorem walk_eq_finish (frames : List Frame) (state : RenderState) :
    walk frames state = forEach Frame.finish frames state := by
  -- What the stack still has to do is the invariant: each case shows that one step keeps it.
  fun_induction walk frames state with
  | case1 => rfl
  | case2 _ _ _ _ inductionHypothesis =>
    rw [inductionHypothesis]
    rfl
  | case3 _ _ _ _ _ _ inductionHypothesis => rw [inductionHypothesis, finish_pass]
  | case4 _ _ _ _ _ _ _ _ inductionHypothesis =>
    rw [inductionHypothesis, finish_token]
    rfl
  | case5 _ _ _ _ _ _ _ _ _ inductionHypothesis =>
    rw [inductionHypothesis, finish_token]
    rfl
  | case6 _ _ _ _ _ _ _ _ _ unresolved =>
    rw [finish_token, evaluate_insert_of_error unresolved]
    rfl
  | case7 _ _ _ _ _ _ _ _ _ resolved _ _ refused =>
    rw [finish_token, evaluate_insert resolved, refused]
    rfl
  | case8 _ _ _ _ _ _ _ _ _ _ resolved _ _ written inductionHypothesis =>
    rw [inductionHypothesis, finish_token, evaluate_insert resolved, written]
    rfl
  | case9 _ _ _ _ _ _ _ _ _ _ unresolved =>
    rw [finish_token, evaluate_block_of_error unresolved]
    rfl
  | case10 _ _ _ _ _ _ _ _ _ _ resolved _ _ refused =>
    rw [finish_token, evaluate_block resolved, refused]
    rfl
  | case11 _ _ _ _ _ _ _ _ _ _ _ resolved _ _ entered inductionHypothesis =>
    rw [inductionHypothesis, finish_token, evaluate_block resolved, entered, forEach_cons,
      Frame.finish_entering]

/-! ### Whole templates -/

/-- The walk over a whole template renders its trees in the scope of the root. -/
theorem walk_root (tokens : List Token) (root : Value) (state : RenderState) :
    walk [{ pending := tokens, scopes := [root] }] state =
      Token.evaluateAll tokens [root] state := by
  rw [walk_eq_finish, forEach_singleton, Frame.finish]
  exact Walked.andThen_nothing _

/-- Rendering a template is what the template means: the same text or the same first error, the
same table of formats behind it, and the same events. -/
theorem render_eq_meaning (tokens : List Token) (formats : FormatTable) (root : Value) :
    render tokens formats root = meaning tokens formats root := by
  have alone : Frame.finish { pending := tokens, scopes := [root] } { formats } =
      Token.evaluateAll tokens [root] { formats } :=
    (Token.evaluateAll tokens [root] { formats }).andThen_nothing
  rw [render, walk_eq_finish, forEach_singleton, alone, meaning]

end Stencil
