/-
This file reads format strings, field by field.

A format string is literal text, in which every brace is written twice, with fields in
single braces. A field has a name, which goes on to a closing brace, a colon or an
exclamation mark; the characters behind an opening bracket are part of the name up to
the closing one. An exclamation mark is followed by a conversion, and a colon by a
specification, in which braces come in pairs. The reading is lazy: it stops behind each
field, so that a fault further on is found only once the fields before it are written.
-/

import Stencil.Format.Fault

namespace Stencil

/-- A field of a format string. -/
structure Field where
  name : List Char
  conversion : Option Char := none
  specification : List Char := []
  deriving DecidableEq, Repr

/-- What is read of a format string in one step: literal text, and the field behind it unless
the text ends at a doubled brace or with the format string. -/
structure Chunk where
  literal : List Char
  field : Option Field := none
  rest : List Char
  deriving DecidableEq, Repr

/-! ### Parts of a field -/

/-- The name of a field, the character that ends it, and what follows. -/
structure FieldName where
  name : List Char
  mark : Char
  rest : List Char

/-- Reads the name of a field. Inside brackets every character is part of the name. -/
def readFieldName (bracketed : Bool) : List Char → Except FormatFault FieldName
  | [] => .error .fieldNotClosed
  | character :: rest =>
    if bracketed then
      (readFieldName (decide (character ≠ ']')) rest).map (extend character)
    else if character = '\x7b' then .error .braceInFieldName
    else if character = '\x7d' ∨ character = ':' ∨ character = '!' then
      .ok { name := [], mark := character, rest }
    else (readFieldName (decide (character = '[')) rest).map (extend character)
where
  /-- A name with one more character before it. -/
  extend (character : Char) (read : FieldName) : FieldName :=
    { read with name := character :: read.name }

/-- Reads a specification up to the brace that closes its field, inside a number of open
braces. -/
def readSpecification (depth : Nat) : List Char → Except FormatFault (List Char × List Char)
  | [] => .error .specificationNotClosed
  | character :: rest =>
    if character = '\x7d' then
      match depth with
      | 0 => .ok ([], rest)
      | depth + 1 => (readSpecification depth rest).map fun (read, behind) =>
        (character :: read, behind)
    else
      (readSpecification (if character = '\x7b' then depth + 1 else depth) rest).map
        fun (read, behind) => (character :: read, behind)

/-- Reads the specification of a field whose other parts are known. -/
def readSpecified (field : Field) (text : List Char) : Except FormatFault (Field × List Char) :=
  (readSpecification 0 text).map fun (specification, rest) => ({ field with specification }, rest)

/-- The conversion that a character names; the character of number zero names none. -/
def conversionOf? (character : Char) : Option Char :=
  if character = '\x00' then none else some character

/-- Reads the conversion of a field and what follows it. -/
def readConversion (name : List Char) : List Char → Except FormatFault (Field × List Char)
  | [] => .error .conversionMissing
  | [_] => .error .specificationNotClosed
  | conversion :: next :: rest =>
    if next = '\x7d' then .ok ({ name, conversion := conversionOf? conversion }, rest)
    else if next = ':' then readSpecified { name, conversion := conversionOf? conversion } rest
    else .error .textBehindConversion

/-- Reads a field behind its opening brace. -/
def readField (text : List Char) : Except FormatFault (Field × List Char) :=
  match readFieldName false text with
  | .error fault => .error fault
  | .ok { name, mark, rest } =>
    if mark = '\x7d' then .ok ({ name }, rest)
    else if mark = ':' then readSpecified { name } rest
    else readConversion name rest

/-! ### One step -/

/-- Reads literal text up to the next field, doubled brace, or end of the format string. -/
def readChunk : List Char → Except FormatFault Chunk
  | [] => .ok { literal := [], rest := [] }
  | character :: rest =>
    if character = '\x7b' ∨ character = '\x7d' then
      if rest.head? = some character then .ok { literal := [character], rest := rest.drop 1 }
      else if character = '\x7d' then .error .loneClosingBrace
      else if rest = [] then .error .loneOpeningBrace
      else (readField rest).map fun (field, rest) => { literal := [], field, rest }
    else (readChunk rest).map fun chunk => { chunk with literal := character :: chunk.literal }

/-! ### Every step moves on -/

/-- A result that is changed by a function comes from one that is not. -/
theorem map_eq_ok {ε α β : Type} {change : α → β} {result : Except ε α} {value : β}
    (mapped : result.map change = .ok value) :
    ∃ before, result = .ok before ∧ change before = value := by
  cases result with
  | error fault => cases mapped
  | ok before => exact ⟨before, rfl, by injection mapped⟩

/-- A result that is changed by a function fails as it does without. -/
theorem map_eq_error {ε α β : Type} {change : α → β} {result : Except ε α} {error : ε}
    (failed : result.map change = .error error) : result = .error error := by
  cases result with
  | error cause =>
    cases failed
    rfl
  | ok value => cases failed

theorem readFieldName_length {bracketed : Bool} {text : List Char} {read : FieldName}
    (found : readFieldName bracketed text = .ok read) : read.rest.length < text.length := by
  fun_induction readFieldName bracketed text generalizing read with
  | case1 => cases found
  | case2 _ _ inductionHypothesis | case5 _ _ _ _ _ _ inductionHypothesis =>
    obtain ⟨inner, foundInner, rfl⟩ := map_eq_ok found
    have shorter := inductionHypothesis foundInner
    simp only [readFieldName.extend, List.length_cons]
    omega
  | case3 => cases found
  | case4 => cases found; exact Nat.lt_succ_self _

theorem readSpecification_length {depth : Nat} {text specification rest : List Char}
    (found : readSpecification depth text = .ok (specification, rest)) :
    rest.length < text.length := by
  fun_induction readSpecification depth text generalizing specification rest with
  | case1 => cases found
  | case2 => cases found; exact Nat.lt_succ_self _
  | case3 _ _ inductionHypothesis | case4 _ _ _ _ inductionHypothesis =>
    obtain ⟨inner, foundInner, equal⟩ := map_eq_ok found
    cases equal
    exact Nat.lt_succ_of_lt (inductionHypothesis foundInner)

theorem readSpecified_length {field read : Field} {text rest : List Char}
    (found : readSpecified field text = .ok (read, rest)) : rest.length < text.length := by
  obtain ⟨inner, foundInner, equal⟩ := map_eq_ok found
  cases equal
  exact readSpecification_length foundInner

theorem readField_length {field : Field} {text rest : List Char}
    (found : readField text = .ok (field, rest)) : rest.length < text.length := by
  unfold readField at found
  split at found
  · cases found
  · rename_i behindName readName
    have shorter := readFieldName_length readName
    dsimp only at shorter
    split at found
    · cases found
      exact shorter
    · split at found
      · have := readSpecified_length found
        omega
      · unfold readConversion at found
        split at found
        · cases found
        · cases found
        · rename_i conversion next behind
          simp only [List.length_cons] at shorter
          split at found
          · cases found
            omega
          · split at found
            · have := readSpecified_length found
              omega
            · cases found

/-- Behind a step less of the format string is left, unless nothing was left before it. -/
theorem readChunk_length {text : List Char} {chunk : Chunk} (found : readChunk text = .ok chunk)
    (some : text ≠ []) : chunk.rest.length < text.length := by
  fun_induction readChunk text generalizing chunk with
  | case1 => exact absurd rfl some
  | case2 _ rest =>
    cases found
    simp only [List.length_drop, List.length_cons]
    omega
  | case3 => cases found
  | case4 => cases found
  | case5 =>
    obtain ⟨inner, foundInner, rfl⟩ := map_eq_ok found
    exact Nat.lt_succ_of_lt (readField_length foundInner)
  | case6 _ rest _ inductionHypothesis =>
    obtain ⟨inner, foundInner, rfl⟩ := map_eq_ok found
    by_cases more : rest = []
    · subst more
      cases foundInner
      exact Nat.lt_succ_self _
    · have shorter := inductionHypothesis foundInner more
      simp only [List.length_cons]
      omega

end Stencil
