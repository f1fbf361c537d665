/-
This file proves how writing a value in a format can fail.

Writing goes through a format string from left to right and into the specifications of its fields,
and it stops at the first thing that fails: a fault of the format string, a key that the value does
not know, or a specification that what stands in its field is not suited to. The error then names
the type of the value, and where it tells of no key, the whole format string. One error does not:
what stands in a field can be beyond the limits of numbers. Where all integers are numbers of
characters, only a field that memory does not hold is left of these.
-/

import Stencil.Proofs.NumberLimits
import Stencil.RenderError

namespace Stencil

/-- All conversions make texts. -/
theorem Primitive.exists_text_of_convert {conversion : Char} {value made : Primitive}
    (converted : value.convert conversion = .ok made) : ∃ text, made = .text text := by
  have shown {result : Except FormatFault String}
      (mapped : result.map Primitive.text = .ok made) : ∃ text, made = .text text := by
    obtain ⟨text, _, rfl⟩ := map_eq_ok mapped
    exact ⟨text, rfl⟩
  unfold Primitive.convert at converted
  split at converted
  · exact shown converted
  split at converted
  · exact shown converted
  split at converted
  · exact shown converted
  · cases converted

namespace Formattable

variable {object : Formattable}

section Values

variable {field : Field} {key : String}

/-! ### The value of a field -/

/-- The value of a field is missing where its key is not known or its conversion is at fault. -/
theorem eq_unknownPlaceholder_of_fieldValue {error : FormatError}
    (failed : object.fieldValue field key = .error error) :
    (∃ fault, error = .malformed fault) ∨
      object.placeholder? key = none ∧ error = .unknownPlaceholder key := by
  unfold fieldValue at failed
  cases known : object.placeholder? key with
  | none =>
    rw [known] at failed
    cases failed
    exact .inr ⟨rfl, rfl⟩
  | some value =>
    rw [known] at failed
    cases converted : field.conversion with
    | none =>
      rw [converted] at failed
      cases failed
    | some conversion =>
      rw [converted] at failed
      exact .inl (exists_fault_of_mapError failed)

/-- A conversion makes texts only, so an integer in a field is a placeholder. -/
theorem placeholder_of_fieldValue_integer {number : Int}
    (stands : object.fieldValue field key = .ok (.integer number)) :
    object.placeholder? key = some (.integer number) := by
  unfold fieldValue at stands
  cases known : object.placeholder? key with
  | none =>
    rw [known] at stands
    cases stands
  | some value =>
    rw [known] at stands
    cases converted : field.conversion with
    | none =>
      rw [converted] at stands
      cases stands
      rfl
    | some conversion =>
      rw [converted] at stands
      cases made : value.convert conversion with
      | error fault =>
        simp only [made] at stands
        cases stands
      | ok text =>
        simp only [made] at stands
        cases stands
        obtain ⟨_, ⟨⟩⟩ := Primitive.exists_text_of_convert made

end Values

section Fields

variable {specify : List Char → Numbering → Expanded} {text : List Char} {field : Field}
  {numbering last : Numbering} {error : FormatError}

/-! ### Fields of a format string -/

theorem ne_nil_of_readChunk {literal rest : List Char}
    (read : readChunk text = .ok { literal, field := some field, rest }) : text ≠ [] := by
  rintro rfl
  cases read

variable [Memory]

/-- A format string is written chunk by chunk. -/
theorem expandWith_eq (more : text ≠ []) (numbering : Numbering) :
    object.expandWith specify text numbering =
      match readChunk text with
      | .error fault => .error (.malformed fault)
      | .ok { literal, field := none, rest } =>
        (object.expandWith specify rest numbering).map fun (written, numbering) =>
          (literal ++ written, numbering)
      | .ok { literal, field := some field, rest } =>
        match object.expandField specify field numbering with
        | .error error => .error error
        | .ok (value, numbering) =>
          (object.expandWith specify rest numbering).map fun (written, numbering) =>
            (literal ++ value ++ written, numbering) := by
  rw [expandWith, dif_pos more]
  split
  · rename_i read
    simp only [read]
  · rename_i read
    simp only [read]
  · rename_i literal field rest read
    cases expanded : object.expandField specify field numbering <;> simp only [read, expanded]

/-- Writing a format string comes to a field, with a numbering of the fields from there on: all
chunks before it are written. -/
inductive Reaches (object : Formattable) (specify : List Char → Numbering → Expanded) :
    List Char → Numbering → Field → Numbering → Prop where
  | here {text literal rest : List Char} {field : Field} {numbering : Numbering}
      (read : readChunk text = .ok { literal, field := some field, rest }) :
      Reaches object specify text numbering field numbering
  | behindLiteral {text literal rest : List Char} {field : Field} {numbering last : Numbering}
      (more : text ≠ []) (read : readChunk text = .ok { literal, field := none, rest })
      (later : Reaches object specify rest numbering field last) :
      Reaches object specify text numbering field last
  | behindField {text literal rest written : List Char} {first field : Field}
      {numbering next last : Numbering}
      (read : readChunk text = .ok { literal, field := some first, rest })
      (expanded : object.expandField specify first numbering = .ok (written, next))
      (later : Reaches object specify rest next field last) :
      Reaches object specify text numbering field last

/-- A format string fails where a field does to which writing comes. -/
theorem expandWith_of_reaches (reaches : object.Reaches specify text numbering field last)
    (failed : object.expandField specify field last = .error error) :
    object.expandWith specify text numbering = .error error := by
  induction reaches with
  | here read =>
    rw [expandWith_eq (ne_nil_of_readChunk read), read]
    simp only [failed]
  | behindLiteral more read _ inductionHypothesis =>
    rw [expandWith_eq more, read]
    simp only [inductionHypothesis failed]
    rfl
  | behindField read expanded _ inductionHypothesis =>
    rw [expandWith_eq (ne_nil_of_readChunk read), read]
    simp only [expanded, inductionHypothesis failed]
    rfl

/-- A format string fails at a chunk that cannot be read or at a field to which writing comes. -/
theorem exists_reaches_of_expandWith
    (failed : object.expandWith specify text numbering = .error error) :
    (∃ fault, error = .malformed fault) ∨
      ∃ field last, object.Reaches specify text numbering field last ∧
        object.expandField specify field last = .error error := by
  fun_induction expandWith object specify text numbering with
  | case1 text numbering more fault read =>
    cases failed
    exact .inl ⟨fault, rfl⟩
  | case2 text numbering more literal rest read inductionHypothesis =>
    obtain malformed | ⟨field, last, reaches, fails⟩ := inductionHypothesis (map_eq_error failed)
    · exact .inl malformed
    · exact .inr ⟨field, last, .behindLiteral more read reaches, fails⟩
  | case3 text numbering more literal field rest read cause fails =>
    cases failed
    exact .inr ⟨field, numbering, .here read, fails⟩
  | case4 text numbering more literal first rest read value next expanded inductionHypothesis =>
    obtain malformed | ⟨field, last, reaches, fails⟩ := inductionHypothesis (map_eq_error failed)
    · exact .inl malformed
    · exact .inr ⟨field, last, .behindField read expanded reaches, fails⟩
  | case5 => cases failed

end Fields

section Levels

variable [Memory] {levels : Nat} {text specification : List Char} {numbering : Numbering}
  {value : Primitive} {error : FormatError}

/-! ### Fields of specifications -/

/-- Writing a format string comes to laying out a value as a specification says: in a field of
the string itself, once its specification is written, or in a field of a specification. -/
inductive LaysOut (object : Formattable) :
    Nat → List Char → Numbering → Primitive → List Char → Prop where
  | here {levels : Nat} {text specification : List Char} {field : Field}
      {numbering last next behind : Numbering} {key : String} {value : Primitive}
      (reaches : object.Reaches (object.expand levels) text numbering field last)
      (named : last.keyOf field.name = .ok (key, next))
      (stands : object.fieldValue field key = .ok value)
      (specified : object.expand levels field.specification next = .ok (specification, behind)) :
      LaysOut object (levels + 1) text numbering value specification
  | inside {levels : Nat} {text specification : List Char} {field : Field}
      {numbering last next : Numbering} {key : String} {outer value : Primitive}
      (reaches : object.Reaches (object.expand levels) text numbering field last)
      (named : last.keyOf field.name = .ok (key, next))
      (stands : object.fieldValue field key = .ok outer)
      (nested : LaysOut object levels field.specification next value specification) :
      LaysOut object (levels + 1) text numbering value specification

/-- An integer that is laid out is a placeholder. -/
theorem LaysOut.exists_placeholder {number : Int}
    (laidOut : object.LaysOut levels text numbering (.integer number) specification) :
    ∃ key, object.placeholder? key = some (.integer number) := by
  generalize same : Primitive.integer number = value at laidOut
  induction laidOut with
  | here _ _ stands _ =>
    subst same
    exact ⟨_, placeholder_of_fieldValue_integer stands⟩
  | inside _ _ _ _ inductionHypothesis => exact inductionHypothesis same

/-- A format string fails where a value does that is laid out. -/
theorem expand_of_laysOut (laidOut : object.LaysOut levels text numbering value specification)
    (failed : value.format specification = .error error) :
    object.expand levels text numbering = .error error := by
  induction laidOut with
  | here reaches named stands specified =>
    refine expandWith_of_reaches reaches ?_
    simp only [expandField, named, stands, specified, failed]
    rfl
  | inside reaches named stands _ inductionHypothesis =>
    refine expandWith_of_reaches reaches ?_
    simp only [expandField, named, stands, inductionHypothesis failed]

/-- A format string fails by a fault of its own, by a key that is not known, or by a value that is
laid out. -/
theorem exists_of_expand_eq_error (failed : object.expand levels text numbering = .error error) :
    (∃ fault, error = .malformed fault) ∨
      (∃ key, object.placeholder? key = none ∧ error = .unknownPlaceholder key) ∨
      ∃ value specification, object.LaysOut levels text numbering value specification ∧
        value.format specification = .error error := by
  induction levels generalizing text numbering with
  | zero =>
    cases failed
    exact .inl ⟨_, rfl⟩
  | succ levels inductionHypothesis =>
    obtain malformed | ⟨field, last, reaches, fails⟩ := exists_reaches_of_expandWith failed
    · exact .inl malformed
    unfold expandField at fails
    split at fails
    · cases fails
      exact .inl ⟨_, rfl⟩
    rename_i key next named
    split at fails
    · rename_i missing
      cases fails
      obtain malformed | unknown := eq_unknownPlaceholder_of_fieldValue missing
      · exact .inl malformed
      · exact .inr (.inl ⟨key, unknown⟩)
    rename_i outer stands
    split at fails
    · rename_i unspecified
      cases fails
      obtain malformed | unknown | ⟨value, specification, nested, fails⟩ :=
        inductionHypothesis unspecified
      · exact .inl malformed
      · exact .inr (.inl unknown)
      · exact .inr (.inr ⟨value, specification, .inside reaches named stands nested, fails⟩)
    · rename_i specification behind specified
      exact .inr (.inr ⟨outer, specification, .here reaches named stands specified,
        map_eq_error fails⟩)

/-- A format string runs into a limit exactly where a value does that is laid out. -/
theorem expand_eq_overflow_iff (cause : NumberOverflow) :
    object.expand levels text numbering = .error (.overflow cause) ↔
      ∃ value specification, object.LaysOut levels text numbering value specification ∧
        value.Exceeds specification cause := by
  constructor
  · intro failed
    obtain ⟨_, ⟨⟩⟩ | ⟨_, _, ⟨⟩⟩ | ⟨value, specification, laidOut, fails⟩ :=
      exists_of_expand_eq_error failed
    exact ⟨value, specification, laidOut, (value.format_eq_overflow_iff _ _).mp fails⟩
  · rintro ⟨value, specification, laidOut, exceeds⟩
    exact expand_of_laysOut laidOut ((value.format_eq_overflow_iff _ _).mpr exceeds)

end Levels

/-! ### Errors of rendering -/

/-- The errors that writing a value in a format is meant to have: a key that the value does not
know, and a format string that is at fault. -/
inductive Declares (object : Formattable) (text : String) : RenderError → Prop where
  | unknownPlaceholder {key : String} (unknown : object.placeholder? key = none) :
      Declares object text (.unknownPlaceholder object.typeName key)
  | invalidFormat (fault : FormatFault) :
      Declares object text (.invalidFormat object.typeName text fault)

section Errors

variable [Memory] {text : String} {error : FormatError}

theorem render_of_expand (failed : object.expand maxLevels text.toList .start = .error error) :
    object.render text = .error (.ofFormatError object.typeName text error) := by
  rw [render, Formattable.format, failed]
  rfl

theorem exists_expand_of_render {found : RenderError} (failed : object.render text = .error found) :
    ∃ error, object.expand maxLevels text.toList .start = .error error ∧
      found = .ofFormatError object.typeName text error := by
  rw [render, Formattable.format] at failed
  cases expanded : object.expand maxLevels text.toList .start with
  | ok written =>
    rw [expanded] at failed
    cases failed
  | error error =>
    rw [expanded] at failed
    cases failed
    exact ⟨error, rfl, rfl⟩

theorem render_eq_overflow_iff (cause : NumberOverflow) :
    object.render text = .error (.overflow cause) ↔
      ∃ value specification, object.LaysOut maxLevels text.toList .start value specification ∧
        value.Exceeds specification cause := by
  rw [← expand_eq_overflow_iff]
  constructor
  · intro failed
    obtain ⟨error, fails, same⟩ := exists_expand_of_render failed
    cases error with
    | overflow other =>
      cases same
      exact fails
    | unknownPlaceholder key => cases same
    | malformed fault => cases same
  · exact render_of_expand

/-- Every error is one that is declared, or a limit of numbers. -/
theorem declares_or_overflow_of_render {found : RenderError}
    (failed : object.render text = .error found) :
    object.Declares text found ∨ ∃ cause, found = .overflow cause := by
  obtain ⟨error, fails, rfl⟩ := exists_expand_of_render failed
  obtain ⟨fault, rfl⟩ | ⟨key, unknown, rfl⟩ | ⟨value, specification, _, fails⟩ :=
    exists_of_expand_eq_error fails
  · exact .inl (.invalidFormat fault)
  · exact .inl (.unknownPlaceholder unknown)
  · cases error with
    | malformed fault => exact .inl (.invalidFormat fault)
    | overflow cause => exact .inr ⟨cause, rfl⟩
    | unknownPlaceholder key => exact absurd fails (value.format_ne_unknownPlaceholder _ key)

end Errors

/-- Writing a value in a format gives a text, a declared error, or a limit of numbers. The limit is
met exactly where a value is laid out that is beyond its specification; any other specification
that a value is not suited to is a fault that names the type of the value and the whole format
string. Where all integers are numbers of characters, memory is the only limit. All this is so
whatever fields memory holds. -/
theorem format_errors_closed [Memory] (object : Formattable) (format : Option String) :
    let text := format.getD object.defaultFormat
    let laidOut := object.LaysOut maxLevels text.toList .start
    ((∃ written, object.renderAs format = .ok written) ∨
      (∃ error, object.renderAs format = .error error ∧ object.Declares text error) ∨
      ∃ cause, object.renderAs format = .error (.overflow cause)) ∧
    (∀ cause, object.renderAs format = .error (.overflow cause) ↔
      ∃ value specification, laidOut value specification ∧ value.Exceeds specification cause) ∧
    (∀ value specification error, laidOut value specification →
      value.format specification = .error error →
      (∀ cause, ¬ value.Exceeds specification cause) →
      ∃ fault, error = .malformed fault ∧
        object.renderAs format = .error (.invalidFormat object.typeName text fault)) ∧
    ((∀ key number, object.placeholder? key = some (.integer number) →
        0 ≤ number ∧ number < 0x110000) →
      ∀ cause, object.renderAs format = .error (.overflow cause) → cause = .memory) := by
  intro text laidOut
  refine ⟨?_, fun cause => render_eq_overflow_iff cause, ?_, ?_⟩
  · cases outcome : object.renderAs format with
    | ok written => exact .inl ⟨written, rfl⟩
    | error error =>
      obtain declared | ⟨cause, rfl⟩ := declares_or_overflow_of_render outcome
      · exact .inr (.inl ⟨error, rfl, declared⟩)
      · exact .inr (.inr ⟨cause, rfl⟩)
  · intro value specification error laysOut failed within
    cases error with
    | malformed fault => exact ⟨fault, rfl, render_of_expand (expand_of_laysOut laysOut failed)⟩
    | overflow cause =>
      exact absurd ((value.format_eq_overflow_iff _ _).mp failed) (within cause)
    | unknownPlaceholder key => exact absurd failed (value.format_ne_unknownPlaceholder _ key)
  · intro characters cause overflow
    obtain ⟨value, specification, laysOut, exceeds⟩ := (render_eq_overflow_iff cause).mp overflow
    refine exceeds.eq_memory fun number same => ?_
    subst same
    obtain ⟨key, known⟩ := laysOut.exists_placeholder
    exact characters key number known

open Memory

/-- A text in a presentation for integers, which stands in a field of the specification. The only
integer here is the number of a character. -/
theorem format_errors_closed_nested :
    let object : Formattable :=
      { typeName := "sample", defaultFormat := "\x7bn\x7d",
        placeholder? := fun key =>
          if key = "s" then some (.text "ab")
          else if key = "code" then some (.text "d")
          else if key = "n" then some (.integer 65)
          else none }
    let text := "\x7bs:\x7bcode\x7d\x7d"
    object.LaysOut maxLevels text.toList .start (.text "ab") ['d'] ∧
      object.renderAs (some text) =
        .error (.invalidFormat "sample" text (.unknownCode 'd' .text)) ∧
      ∀ cause, object.renderAs (some text) = .error (.overflow cause) → cause = .memory := by
  intro object text
  have read : readChunk "\x7bs:\x7bcode\x7d\x7d".toList = .ok
      { literal := [], field := some { name := ['s'], specification := "\x7bcode\x7d".toList },
        rest := [] } := by
    show readChunk ['\x7b', 's', ':', '\x7b', 'c', 'o', 'd', 'e', '\x7d', '\x7d'] = _
    with_unfolding_all rfl
  have specified : object.expand 2 "\x7bcode\x7d".toList .start = .ok (['d'], .start) := by
    with_unfolding_all rfl
  have laysOut : object.LaysOut maxLevels text.toList .start (.text "ab") ['d'] :=
    .here (.here read) rfl rfl specified
  obtain ⟨_, _, unsuited, limits⟩ := format_errors_closed object (some text)
  refine ⟨laysOut, ?_, limits fun key number known => ?_⟩
  · have within (cause : NumberOverflow) : ¬ (Primitive.text "ab").Exceeds ['d'] cause := by
      rw [← Primitive.format_eq_overflow_iff]
      rintro ⟨⟩
    obtain ⟨fault, same, invalid⟩ := unsuited _ _ _ laysOut rfl within
    cases same
    exact invalid
  · simp only [object] at known
    split at known
    · cases known
    split at known
    · cases known
    split at known
    · cases known
      decide
    · cases known

/-- The first integer beyond the numbers of characters, asked for as a character: the value is laid
out and cannot be, and what comes of it is no error that is declared. -/
theorem character_error_undeclared :
    let text := "\x7bx:c\x7d"
    let object : Formattable :=
      { typeName := "n", defaultFormat := text,
        placeholder? := fun key => if key = "x" then some (.integer 0x110000) else none }
    object.LaysOut maxLevels text.toList .start (.integer 0x110000) ['c'] ∧
      (Primitive.integer 0x110000).format ['c'] = .error (.overflow .character) ∧
      object.renderAs none = .error (.overflow .character) ∧
      ¬ ((∃ written, object.renderAs none = .ok written) ∨
        ∃ error, object.renderAs none = .error error ∧ object.Declares text error) := by
  intro text object
  have read : readChunk "\x7bx:c\x7d".toList = .ok
      { literal := [], field := some { name := ['x'], specification := ['c'] }, rest := [] } := by
    show readChunk ['\x7b', 'x', ':', 'c', '\x7d'] = _
    with_unfolding_all rfl
  have specified : object.expand 2 ['c'] .start = .ok (['c'], .start) := by
    with_unfolding_all rfl
  have laysOut : object.LaysOut maxLevels text.toList .start (.integer 0x110000) ['c'] :=
    .here (.here read) rfl rfl specified
  have fails : (Primitive.integer 0x110000).format ['c'] = .error (.overflow .character) := rfl
  have undeclared : object.renderAs none = .error (.overflow .character) :=
    render_of_expand (expand_of_laysOut laysOut fails)
  refine ⟨laysOut, fails, undeclared, ?_⟩
  rw [undeclared]
  rintro (⟨_, ⟨⟩⟩ | ⟨_, ⟨⟩, ⟨⟩⟩)

end Formattable

end Stencil
