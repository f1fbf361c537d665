/-
This file proves that rendering a template again settles its table of formats.

A rendering sets formats in its template, and they stay for the next one, which may therefore
write another text. But which sections are entered, and how often, is no matter of formats. So
every rendering against the same data that does not fail sets the same formats in the same order,
and setting them a second time changes nothing. Behind the first rendering the table is the one
that every later rendering finds and leaves, and from the second one on the text is the same.
-/

import Stencil.Proofs.Walk
import Stencil.Template

namespace Stencil

/-! ### What a template sets -/

namespace Token

mutual

/-- The formats that a tree sets in a stack of scopes where nothing fails, in the order in which
it sets them. -/
def settings : Token → Scopes → List (String × String)
  | text _, _ | insert _ _, _ => []
  | setFormat typeName format, _ => [(typeName, format)]
  | block name inverted children, scopes =>
    (passesOf name inverted scopes).flatMap fun pass => settingsAll children pass

/-- The formats that a list of trees sets in a stack of scopes where nothing fails. -/
def settingsAll : List Token → Scopes → List (String × String)
  | [], _ => []
  | token :: rest, scopes => settings token scopes ++ settingsAll rest scopes

end

end Token

namespace Walked

/-- A walk sets formats in a table, one behind the other, unless it fails. -/
def Sets (walked : Walked) (formats : FormatTable) (pairs : List (String × String)) : Prop :=
  walked.error = none → walked.state.formats = formats.setAll pairs

theorem Sets.failed (state : RenderState) (error : RenderError) (formats : FormatTable)
    (pairs : List (String × String)) :
    ({ state, error := some error } : Walked).Sets formats pairs := nofun

theorem Sets.andThen {first : Walked} {rest : RenderState → Walked} {formats : FormatTable}
    {pairs more : List (String × String)} (sets : first.Sets formats pairs)
    (behind : ∀ state, (rest state).Sets state.formats more) :
    (first.andThen rest).Sets formats (pairs ++ more) := by
  obtain ⟨state, error⟩ := first
  cases error with
  | some error => exact .failed state error formats _
  | none =>
    intro finished
    rw [FormatTable.setAll_append, ← sets rfl]
    exact behind state finished

theorem Sets.forEach {α : Type} {action : α → RenderState → Walked}
    {pairs : α → List (String × String)}
    (each : ∀ item state, (action item state).Sets state.formats (pairs item))
    (items : List α) (state : RenderState) :
    (forEach action items state).Sets state.formats (items.flatMap pairs) := by
  induction items generalizing state with
  | nil => exact fun _ => rfl
  | cons item rest inductionHypothesis =>
    rw [forEach_cons, List.flatMap_cons]
    exact (each item state).andThen inductionHypothesis

end Walked

namespace Token

variable [Memory]

theorem insert_sets (name : Name) (format : Option String) (scopes : Scopes)
    (state : RenderState) :
    (evaluate (.insert name format) scopes state).Sets state.formats [] := by
  cases resolved : scopes.resolve name with
  | error error =>
    rw [evaluate_insert_of_error resolved]
    exact .failed _ _ _ _
  | ok value =>
    rw [evaluate_insert resolved]
    split
    · exact .failed _ _ _ _
    · exact fun _ => rfl

mutual

/-- Whatever the table is, a tree sets its own formats in it. -/
theorem evaluate_sets : ∀ (token : Token) (scopes : Scopes) (state : RenderState),
    (token.evaluate scopes state).Sets state.formats (token.settings scopes)
  | text content, _, state => fun _ => state.formats_write content
  | insert name format, scopes, state => insert_sets name format scopes state
  | setFormat typeName format, _, state => fun _ => state.formats_setFormat typeName format
  | block name inverted children, scopes, state => by
    cases resolved : scopes.resolve name with
    | error error =>
      rw [evaluate_block_of_error resolved]
      exact .failed _ _ _ _
    | ok value =>
      rw [evaluate_block resolved, settings, passesOf, resolved]
      simp only []
      cases sectionPasses name inverted value scopes with
      | error error => exact .failed _ _ _ _
      | ok passes =>
        exact Walked.Sets.forEach (fun pass next => evaluateAll_sets children pass next) passes _

theorem evaluateAll_sets : ∀ (tokens : List Token) (scopes : Scopes) (state : RenderState),
    (evaluateAll tokens scopes state).Sets state.formats (settingsAll tokens scopes)
  | [], _, _ => fun _ => rfl
  | token :: rest, scopes, state =>
    (evaluate_sets token scopes state).andThen fun next => evaluateAll_sets rest scopes next

end

end Token

/-- A rendering that does not fail leaves the table with the formats set in it that its template
sets for the value. -/
theorem formats_render [Memory] {tokens : List Token} {formats : FormatTable} {root : Value}
    {text : String} (finished : (render tokens formats root).outcome = .ok text) :
    (render tokens formats root).formats = formats.setAll (Token.settingsAll tokens [root]) := by
  rw [render, walk_root, Walked.toRendering] at finished ⊢
  refine Token.evaluateAll_sets tokens [root] { formats } ?_
  split at finished
  · cases finished
  · assumption

/-! ### Rendering again -/

namespace Template

section Again

variable [Memory]

/-- The template behind a number of renderings against the same data. -/
def renderedTimes (template : Template) (datum : Datum) : Nat → Template
  | 0 => template
  | count + 1 => ((template.renderedTimes datum count).render datum).template

theorem template_render {template : Template} {datum : Datum} {root : Value} {text : String}
    (given : datum.toValue = .ok root) (finished : (template.render datum).outcome = .ok text) :
    (template.render datum).template = { template with
      formats := template.formats.setAll (Token.settingsAll template.tokens [root]) } := by
  rw [render, given] at finished ⊢
  simp only [renderValue] at finished ⊢
  cases rendered : (Stencil.render template.tokens template.formats root).outcome with
  | error error =>
    rw [rendered] at finished
    cases finished
  | ok text => rw [formats_render rendered]

theorem exists_value_of_render {template : Template} {datum : Datum} {text : String}
    (finished : (template.render datum).outcome = .ok text) :
    ∃ root, datum.toValue = .ok root := by
  cases given : datum.toValue with
  | error refusal =>
    rw [render, given] at finished
    cases finished
  | ok root => exact ⟨root, rfl⟩

/-- A second rendering that does not fail leaves the template as it found it. -/
theorem template_render_render {template : Template} {datum : Datum} {first second : String}
    (once : (template.render datum).outcome = .ok first)
    (twice : ((template.render datum).template.render datum).outcome = .ok second) :
    ((template.render datum).template.render datum).template =
      (template.render datum).template := by
  obtain ⟨root, given⟩ := exists_value_of_render once
  rw [template_render given twice, template_render given once, FormatTable.setAll_setAll]

/-- Two renderings in a row against the same data that do not fail settle a template: the second
one leaves the table as the first one left it, and every later one writes the text of the second
one and leaves the table as it is. -/
theorem rendering_settles {template : Template} {datum : Datum} {first second : String}
    (once : (template.render datum).outcome = .ok first)
    (twice : ((template.renderedTimes datum 1).render datum).outcome = .ok second) :
    (template.renderedTimes datum 2).formats = (template.renderedTimes datum 1).formats ∧
      ∀ count, ((template.renderedTimes datum (count + 2)).render datum).outcome = .ok second ∧
        ((template.renderedTimes datum (count + 2)).render datum).template.formats =
          (template.renderedTimes datum (count + 2)).formats := by
  have settled : ((template.renderedTimes datum 1).render datum).template =
      template.renderedTimes datum 1 := template_render_render once twice
  have stays (count : Nat) :
      template.renderedTimes datum (count + 1) = template.renderedTimes datum 1 := by
    induction count with
    | zero => rfl
    | succ count inductionHypothesis => rw [renderedTimes, inductionHypothesis, settled]
  refine ⟨congrArg formats (stays 1), fun count => ?_⟩
  rw [stays (count + 1)]
  exact ⟨twice, congrArg formats settled⟩

end Again

open Memory

/-- The first rendering writes in the format it finds and the second one in that of the first. -/
theorem rendering_settles_second_text :
    let template : Template := {
      tokens := [.insert .self none, .block .self false [.setFormat "color" "\x7br\x7d"]]
      formats := .ofPairs [("color", "\x7bg\x7d")] }
    let datum : Datum := .formattable (Color.toFormattable { red := 7, green := 8, blue := 9 })
    (template.render datum).outcome = .ok "8" ∧
      ((template.renderedTimes datum 1).render datum).outcome = .ok "7" ∧
      (template.renderedTimes datum 2).formats = (template.renderedTimes datum 1).formats ∧
      ∀ count, ((template.renderedTimes datum (count + 2)).render datum).outcome = .ok "7" ∧
        ((template.renderedTimes datum (count + 2)).render datum).template.formats =
          (template.renderedTimes datum (count + 2)).formats := by
  refine ⟨by with_unfolding_all rfl, by with_unfolding_all rfl, ?_⟩
  exact rendering_settles (show _ = Except.ok "8" by with_unfolding_all rfl)
    (by with_unfolding_all rfl)

end Template

end Stencil
