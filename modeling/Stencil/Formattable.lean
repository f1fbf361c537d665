/-
This file holds formattable values, whose text is driven by a format string.

A formattable value has the name of its type, a format string of its own, and
placeholders, the values that the fields of a format string stand for. The whole name of a
field is the key of its placeholder; a field without a name is numbered, and a format
string numbers either all of its nameless fields itself or none. A specification is a
format string again, with the same numbering going on through it, and one more level of
fields is allowed inside it.
-/

import Stencil.Format.Field
import Stencil.Format.Primitive

namespace Stencil

/-- A value whose text is driven by a format string. -/
structure Formattable where
  typeName : String
  defaultFormat : String
  /-- The value behind a key, if the key is known. -/
  placeholder? : String → Option Primitive

/-! ### The numbering of fields -/

/-- How the nameless fields of a format string get their keys. -/
inductive Numbering where
  /-- They are numbered in order; this is the next number. -/
  | automatic (next : Nat)
  /-- A field has been numbered by hand, and none may be nameless. -/
  | manual
  deriving DecidableEq, Repr

namespace Numbering

/-- The numbering at the start of a format string. -/
def start : Numbering := .automatic 0

/-- The key of a field, and the numbering behind it. A name of digits numbers a field by
hand, which is refused once a field has been numbered automatically. -/
def keyOf (numbering : Numbering) (name : List Char) : Except FormatFault (String × Numbering) :=
  if name = [] then
    match numbering with
    | automatic next => .ok (toString next, automatic (next + 1))
    | manual => .error .numberingMixed
  else if name.all Text.isDigit then
    match numbering with
    | automatic 0 | manual => .ok (String.ofList name, manual)
    | automatic (_ + 1) => .error .numberingMixed
  else .ok (String.ofList name, numbering)

end Numbering

namespace Formattable

/-! ### Expansion -/

/-- What writing a piece of a format string gives: its text and the numbering behind it. -/
abbrev Expanded := Except FormatError (List Char × Numbering)

/-- The value that a field stands for, behind its conversion. -/
def fieldValue (formattable : Formattable) (field : Field) (key : String) :
    Except FormatError Primitive :=
  match formattable.placeholder? key with
  | none => .error (.unknownPlaceholder key)
  | some value =>
    match field.conversion with
    | none => .ok value
    | some conversion => (value.convert conversion).mapError .malformed

variable [Memory]

/-- Writes a field: first its key, then its value, then its specification, and last the value
as the specification says. -/
def expandField (formattable : Formattable) (specify : List Char → Numbering → Expanded)
    (field : Field) (numbering : Numbering) : Expanded :=
  match numbering.keyOf field.name with
  | .error fault => .error (.malformed fault)
  | .ok (key, numbering) =>
    match formattable.fieldValue field key with
    | .error error => .error error
    | .ok value =>
      match specify field.specification numbering with
      | .error error => .error error
      | .ok (specification, numbering) =>
        (value.format specification).map fun written => (written, numbering)

/-- Writes a format string from left to right, with a way to write the specifications in
it. -/
def expandWith (formattable : Formattable) (specify : List Char → Numbering → Expanded)
    (text : List Char) (numbering : Numbering) : Expanded :=
  if _some : text ≠ [] then
    match _read : readChunk text with
    | .error fault => .error (.malformed fault)
    | .ok { literal, field := none, rest } =>
      (formattable.expandWith specify rest numbering).map fun (written, numbering) =>
        (literal ++ written, numbering)
    | .ok { literal, field := some field, rest } =>
      match formattable.expandField specify field numbering with
      | .error error => .error error
      | .ok (value, numbering) =>
        (formattable.expandWith specify rest numbering).map fun (written, numbering) =>
          (literal ++ value ++ written, numbering)
  else .ok ([], numbering)
  termination_by text.length
  decreasing_by all_goals exact readChunk_length _read _some

/-- Writes a format string in which specifications may be nested to a number of levels. -/
def expand (formattable : Formattable) : Nat → List Char → Numbering → Expanded
  | 0 => fun _ _ => .error (.malformed .nestedTooDeep)
  | levels + 1 => formattable.expandWith (formattable.expand levels)

/-- The levels of format strings: the string itself, its specifications, and theirs, which
hold no more fields. -/
def maxLevels : Nat := 3

/-- The text of a value in a format. -/
def format (formattable : Formattable) (text : String) : Except FormatError String :=
  (formattable.expand maxLevels text.toList .start).map fun (written, _) => String.ofList written

/-- The text of a value in its own format. -/
def display (formattable : Formattable) : Except FormatError String :=
  formattable.format formattable.defaultFormat

end Formattable

end Stencil
