/-
This file proves that a format means the same wherever it comes from.

A format can be given to an inserted value in its tag, in an instruction in front of the tag, in
the table of the template, or in the formats of the engine that compiles the template. Written
in a template it stands between quotes, where a backslash goes before every quote and every
backslash; so it may hold whatever it likes, delimiters and line ends too, and is read back as it
was. Every way leads to one call, that of writing the value in just this format, and the empty
format is a format like any other.
-/

import Stencil.Proofs.Facade
import Stencil.Proofs.RoundTrip
import Stencil.Proofs.Walk

namespace Stencil

/-! ### Three templates -/

section Sources

/-- The name under which the value is looked up. -/
def insertedName : Name := { segments := ["x"] }

/-- The text of a template that inserts a value. -/
def plainSource : String := "\x7b\x7bx\x7d\x7d"

/-- The text of a template that inserts a value in the format in its tag. -/
def inlineSource (format : String) : String :=
  "\x7b\x7bx:\"" ++ String.ofList (escaped format.toList) ++ "\"\x7d\x7d"

/-- The text of a template that sets the format of a type and inserts a value. -/
def directiveSource (typeName format : String) : String :=
  "\x7b\x7b=" ++ typeName ++ ":\"" ++ String.ofList (escaped format.toList) ++ "\"=\x7d\x7d" ++
    plainSource

theorem closesApart_standard : Delimiters.standard.ClosesApart := by
  rintro _ ⟨⟩
  decide

theorem insertedName_isWritable : insertedName.IsWritable := by decide

theorem spelled_insert :
    (Item.insert insertedName none).Spelled .standard plainSource.toList :=
  .insert (.parts (.plain blanks_nil) insertedName_isWritable blanks_nil .absent)

theorem compile_plainSource :
    (compile .standard plainSource).outcome = .ok [.insert insertedName none] := by
  refine compile_spelling closesApart_standard (by decide) ?_
  exact .cons spelled_insert .nil

theorem spelled_inline (format : String) :
    (Item.insert insertedName (some format)).Spelled .standard (inlineSource format).toList := by
  have tag : TagSpelling .standard none insertedName (some format) _ :=
    .parts (.plain blanks_nil) insertedName_isWritable blanks_nil
      (.given blanks_nil (quotation_escaped format.toList) blanks_nil)
  have written : insertedName.toString.toList = ['x'] := rfl
  have text : (inlineSource format).toList =
      Delimiters.standard.opening ++ ('x' :: ':' :: '"' ::
        (escaped format.toList ++ '"' :: Delimiters.standard.closing)) := by
    simp [inlineSource, Delimiters.standard]
  rw [text]
  simpa [written] using Item.Spelled.insert tag

theorem spelled_directive {typeName : String} (identifier : IsIdentifier typeName.toList)
    (format : String) :
    ∃ word, directiveSource typeName format = String.ofList (word ++ plainSource.toList) ∧
      (Item.setFormat typeName format).Spelled .standard word := by
  refine ⟨_, ?_, .setFormat blanks_nil (.parts identifier blanks_nil blanks_nil)
    (quotation_escaped format.toList) blanks_nil⟩
  simp [directiveSource, Delimiters.standard, Delimiters.instructionOpening,
    Delimiters.instructionClosing, ← String.toList_inj]

theorem compile_inlineSource (format : String) :
    (compile .standard (inlineSource format)).outcome =
      .ok [.insert insertedName (some format)] := by
  refine compile_spelling closesApart_standard ⟨insertedName_isWritable, nofun, trivial⟩ ?_
  rw [← List.append_nil (inlineSource format).toList]
  exact .cons (spelled_inline format) .nil

theorem compile_directiveSource {typeName : String} (identifier : IsIdentifier typeName.toList)
    (format : String) :
    (compile .standard (directiveSource typeName format)).outcome =
      .ok [.setFormat typeName format, .insert insertedName none] := by
  obtain ⟨word, source, spelled⟩ := spelled_directive identifier format
  refine compile_spelling closesApart_standard
    ⟨identifier, nofun, insertedName_isWritable, nofun, trivial⟩ ?_
  rw [source, String.toList_ofList]
  exact .cons spelled (.cons spelled_insert .nil)

end Sources

/-! ### The inserted value -/

section Inserted

variable (object : Formattable)

/-- The data in which the value stands under its name. -/
def insertedData : Datum := .mapping [(.text "x", .formattable object)]

/-- The value that the data make. -/
def insertedRoot : Value := .map [("x", .formattable object)]

theorem toValue_insertedData : (insertedData object).toValue = .ok (insertedRoot object) := rfl

theorem resolve_insertedName :
    Scopes.resolve [insertedRoot object] insertedName = .ok (.formattable object) := rfl

theorem effectiveFormat_set (formats : FormatTable) (format : String) :
    effectiveFormat (formats.set object.typeName format) none object = format := by
  rw [effectiveFormat, FormatTable.get?_set, if_pos rfl]
  rfl

variable [Memory]

/-- An insert that begins a text writes the value in its effective format. -/
theorem outcome_insert {inTag : Option String} {state : RenderState} {format : String}
    (begins : state.text = "") (effective : effectiveFormat state.formats inTag object = format) :
    (Token.evaluateAll [.insert insertedName inTag] [insertedRoot object]
      state).toRendering.outcome = object.render format := by
  have alone : Token.evaluateAll [.insert insertedName inTag] [insertedRoot object] state =
      Token.evaluate (.insert insertedName inTag) [insertedRoot object] state :=
    Walked.andThen_nothing _
  have text : insertText (state.note (.insert insertedName.toString object.typeName)).formats
      insertedName inTag (.formattable object) = object.render format :=
    congrArg object.render effective
  rw [alone, evaluate_insert (resolve_insertedName object)]
  rw [show (Value.formattable object).kind = object.typeName from rfl, text]
  cases object.render format with
  | error error => rfl
  | ok written =>
    simp only [Walked.toRendering, RenderState.text_write, RenderState.text_note, begins,
      String.empty_append]

theorem outcome_render (tokens : List Token) (formats : FormatTable) :
    ({ tokens, formats : Template }.render (insertedData object)).outcome =
      (Token.evaluateAll tokens [insertedRoot object] { formats }).toRendering.outcome.mapError
        .render := by
  rw [Template.render, toValue_insertedData]
  show (Stencil.render tokens formats (insertedRoot object)).outcome.mapError _ = _
  rw [Stencil.render, walk_root]

/-- A template that inserts the value writes it in the format of its tag or of its table. -/
theorem outcome_render_insert {inTag : Option String} {formats : FormatTable} {format : String}
    (effective : effectiveFormat formats inTag object = format) :
    ({ tokens := [.insert insertedName inTag], formats : Template }.render
        (insertedData object)).outcome = (object.render format).mapError .render := by
  rw [outcome_render, outcome_insert object rfl effective]

/-- A template that sets the format of the type and then inserts the value writes it in that
format. -/
theorem outcome_render_directive (formats : FormatTable) (format : String) :
    ({ tokens := [.setFormat object.typeName format, .insert insertedName none],
       formats : Template }.render (insertedData object)).outcome =
      (object.render format).mapError .render := by
  have behind : Token.evaluateAll
      [.setFormat object.typeName format, .insert insertedName none] [insertedRoot object]
        { formats } =
      Token.evaluateAll [.insert insertedName none] [insertedRoot object]
        (RenderState.setFormat { formats } object.typeName format) := rfl
  rw [outcome_render, behind, outcome_insert object rfl (effectiveFormat_set object formats format)]

end Inserted

/-! ### Formats from everywhere -/

section Everywhere

variable [Memory]

/-- What a text comes to when its template is prepared in some way and then rendered. -/
def renderSource (source : String) (prepare : Template → Template) (datum : Datum) :
    Except Failure String :=
  (Template.compile .standard source).outcome.bind fun template =>
    ((prepare template).render datum).outcome

theorem renderSource_of_compile {source : String} {tokens : List Token}
    (compiled : (compile .standard source).outcome = .ok tokens) (prepare : Template → Template)
    (datum : Datum) :
    renderSource source prepare datum = ((prepare { tokens }).render datum).outcome := by
  rw [renderSource, Template.compile, compiled]
  rfl

/-- An engine renders a text as its template is rendered with the formats of the
configuration. -/
theorem outcome_render_ofConfig (config : EngineConfig) (source : String) (datum : Datum)
    (standard : config.delimiters = .standard) :
    ((Engine.ofConfig config).render source datum).outcome =
      renderSource source (fun template => { template with formats := config.formats }) datum := by
  have new : ((Engine.ofConfig config).compile source).outcome = config.newTemplate [] source :=
    Engine.outcome_compile config [] source
  rw [Engine.outcome_render, new, EngineConfig.newTemplate, standard, renderSource]
  cases (Template.compile .standard source).outcome <;> rfl

/-- A format comes to the same text or the same error wherever it comes from: from the tag, from
the template, where it is set by hand, from an instruction, or from the configuration of an
engine. It is what writing the value in this format comes to, whatever the table of the template
holds before. -/
theorem format_sources_agree (object : Formattable)
    (identifier : IsIdentifier object.typeName.toList) (format : String) :
    let data := insertedData object
    let written : Except Failure String := (object.renderAs (some format)).mapError .render
    ∀ (table : FormatTable) (config : EngineConfig),
      renderSource (inlineSource format) (fun template => { template with formats := table })
        data = written ∧
      renderSource plainSource
        (fun template => { template with formats := table }.setFormat object.typeName format)
        data = written ∧
      renderSource (directiveSource object.typeName format)
        (fun template => { template with formats := table }) data = written ∧
      ((Engine.ofConfig { config with
        delimiters := .standard
        formats := .ofPairs [(object.typeName, format)] }).render plainSource data).outcome =
        written := by
  intro data written table config
  have set (formats : FormatTable) := effectiveFormat_set object formats format
  refine ⟨?_, ?_, ?_, ?_⟩
  · rw [renderSource_of_compile (compile_inlineSource format)]
    exact outcome_render_insert object rfl
  · rw [renderSource_of_compile compile_plainSource]
    exact outcome_render_insert object (set table)
  · rw [renderSource_of_compile (compile_directiveSource identifier format)]
    exact outcome_render_directive object table format
  · rw [outcome_render_ofConfig _ _ _ rfl, renderSource_of_compile compile_plainSource]
    exact outcome_render_insert object (set .empty)

end Everywhere

open Memory

/-- A format of a quote, a delimiter and a backslash for a color. -/
theorem format_sources_agree_quoted :
    let color : Color := { red := 7, green := 8, blue := 9 }
    let format := "\"\x7b\x7b\\"
    let table : FormatTable := .ofPairs [("color", "\x7bg\x7d")]
    IsIdentifier color.toFormattable.typeName.toList ∧
      inlineSource format = "\x7b\x7bx:\"\\\"\x7b\x7b\\\\\"\x7d\x7d" ∧
      renderSource (inlineSource format) (fun template => { template with formats := table })
        (insertedData color.toFormattable) =
        (color.toFormattable.renderAs (some format)).mapError .render ∧
      color.toFormattable.renderAs (some format) = .ok "\"\x7b\\" := by
  have written : (Color.toFormattable { red := 7, green := 8, blue := 9 }).renderAs
      (some "\"\x7b\x7b\\") = .ok "\"\x7b\\" := by with_unfolding_all rfl
  intro color format table
  have identifier : IsIdentifier color.toFormattable.typeName.toList := by decide
  refine ⟨identifier, by decide, ?_, written⟩
  exact (format_sources_agree color.toFormattable identifier format table {}).1

end Stencil
