/-
This file reads the parts of a template that stand between delimiters: names, quoted
texts, tags and instructions.

Each production is a function from a cursor. It is absent when the text ahead does not
begin like one, and then the caller tries the next production from the same cursor; it is
at fault when the text begins like one and does not go on like one, and then nothing else
is tried. A production that is read leaves the cursor behind its last character. Blanks
are allowed between the parts of a tag, but not inside a delimiter, a name or the pair of
a delimiter and an equals sign.
-/

import Stencil.Cursor
import Stencil.Delimiters
import Stencil.Name
import Stencil.ParseError

namespace Stencil

/-- What a production makes of the text ahead: it is at fault, absent, or read. -/
abbrev Reading (α : Type) := Except ParseError (Option (α × Cursor))

/-- Tries a second production where the first is absent. -/
def Reading.orElse {α : Type} (first : Reading α) (second : Unit → Reading α) : Reading α :=
  match first with
  | .ok none => second ()
  | other => other

/-- Changes the value of a production that is read. -/
def Reading.map {α β : Type} (change : α → β) : Reading α → Reading β
  | .error fault => .error fault
  | .ok none => .ok none
  | .ok (some (value, next)) => .ok (some (change value, next))

/-- A letter or a digit of the common alphabet, an underscore or a hyphen. -/
def isIdentifierChar (character : Char) : Bool :=
  character.isAlphanum || character = '_' || character = '-'

/-- A delimiter is defined by characters that are neither blank nor an equals sign. -/
def isDefinitionChar (character : Char) : Bool :=
  !Text.isBlank character && character ≠ '='

/-! ### Quoted text -/

/-- What was read of a quoted text behind its opening quote. -/
structure QuotedText where
  /-- The text that is meant. -/
  content : List Char
  /-- The text as it is spelled, with the closing quote. -/
  spelling : List Char
  /-- The text behind the closing quote. -/
  rest : List Char
  deriving DecidableEq, Repr

/-- Reads up to the closing quote. A backslash makes the character behind it stand for
itself; a text that ends before the closing quote is none. -/
def readQuoted : List Char → Option QuotedText
  | [] => none
  | character :: rest =>
    if character = '"' then some { content := [], spelling := ['"'], rest }
    else if character = '\\' then
      match rest with
      | [] => none
      | escaped :: rest =>
        (readQuoted rest).map fun quoted =>
          { quoted with
            content := escaped :: quoted.content
            spelling := '\\' :: escaped :: quoted.spelling }
    else
      (readQuoted rest).map fun quoted =>
        { quoted with
          content := character :: quoted.content
          spelling := character :: quoted.spelling }

namespace Cursor

/-- A fault that is found at this cursor. -/
def fault (cursor : Cursor) (kind : ParseErrorKind) (details : List String := []) : ParseError where
  kind := kind
  position := cursor.position
  details := details

/-- A text between double quotes. One that is not closed is a fault at the end of the
template. -/
def quoted? (cursor : Cursor) : Reading String :=
  match cursor.ahead with
  | [] => .ok none
  | character :: rest =>
    if character = '"' then
      match readQuoted rest with
      | some quoted =>
        .ok (some (String.ofList quoted.content, cursor.past ('"' :: quoted.spelling) quoted.rest))
      | none => .error ((cursor.past cursor.ahead []).fault .expectedClosing ["\""])
    else .ok none

/-! ### Names -/

/-- The longest run of identifier characters, unless it is empty. -/
def identifier? (cursor : Cursor) : Option (String × Cursor) :=
  match cursor.run isIdentifierChar with
  | ([], _) => none
  | (first :: more, next) => some (String.ofList (first :: more), next)

theorem identifier?_length_lt {cursor next : Cursor} {identifier : String}
    (read : cursor.identifier? = some (identifier, next)) :
    next.ahead.length < cursor.ahead.length := by
  have lengths := cursor.run_length isIdentifierChar
  unfold identifier? at read
  split at read
  · cases read
  · rename_i ran
    cases read
    simp only [ran, List.length_cons] at lengths
    omega

/-- The further segments of a name, each behind a dot. A dot that no segment follows is a
fault. -/
def moreSegments (cursor : Cursor) : Except ParseError (List String × Cursor) :=
  match _accepted : cursor.accept? ['.'] with
  | none => .ok ([], cursor)
  | some behindDot =>
    match _read : behindDot.identifier? with
    | none => .error (behindDot.fault .expectedIdentifier)
    | some (segment, next) =>
      match moreSegments next with
      | .error fault => .error fault
      | .ok (segments, final) => .ok (segment :: segments, final)
  termination_by cursor.ahead.length
  decreasing_by
    obtain ⟨rest, ahead, rfl⟩ := accept?_eq_some _accepted
    have shorter := identifier?_length_lt _read
    simp only [ahead_past] at shorter
    simp only [ahead, List.length_append]
    omega

/-- A name: a single dot, or segments with dots between them. -/
def name? (cursor : Cursor) : Reading Name :=
  match cursor.accept? ['.'] with
  | some next => .ok (some (.self, next))
  | none =>
    match cursor.identifier? with
    | none => .ok none
    | some (segment, next) =>
      match next.moreSegments with
      | .error fault => .error fault
      | .ok (segments, final) => .ok (some ({ segments := segment :: segments }, final))

/-! ### Tags -/

/-- The place behind the opening of a tag: the opening delimiter, the mark of the tag if it
has one, and the blanks around it. -/
def tagOpening? (cursor : Cursor) (delimiters : Delimiters) (mark : Option Char) :
    Option Cursor :=
  match cursor.accept? delimiters.opening with
  | none => none
  | some opened =>
    match mark with
    | none => some opened.skipBlanks
    | some character => (opened.skipBlanks.accept? [character]).map skipBlanks

/-- The format of an insert, behind a colon, if there is one. -/
def tagFormat (cursor : Cursor) : Except ParseError (Option String × Cursor) :=
  match cursor.accept? [':'] with
  | none => .ok (none, cursor)
  | some behindColon =>
    match behindColon.skipBlanks.quoted? with
    | .error fault => .error fault
    | .ok none => .error (behindColon.skipBlanks.fault .expectedFormatString)
    | .ok (some (format, next)) => .ok (some format, next.skipBlanks)

/-- Reads the text that closes a tag or an instruction; its absence is a fault. -/
def close {α : Type} (cursor : Cursor) (closing : List Char) (value : α) : Reading α :=
  match cursor.accept? closing with
  | none => .error (cursor.fault .expectedClosing [String.ofList closing])
  | some next => .ok (some (value, next))

/-- A tag: its opening, a name, a format if the tag may have one, and the closing delimiter.
Only the absence of the opening or of the mark makes it absent. -/
def tag? (cursor : Cursor) (delimiters : Delimiters) (mark : Option Char) (takesFormat : Bool) :
    Reading (Name × Option String) :=
  match cursor.tagOpening? delimiters mark with
  | none => .ok none
  | some opened =>
    match opened.name? with
    | .error fault => .error fault
    | .ok none => .error (opened.fault .expectedName)
    | .ok (some (name, behindName)) =>
      if takesFormat then
        match behindName.skipBlanks.tagFormat with
        | .error fault => .error fault
        | .ok (format, behindFormat) => behindFormat.close delimiters.closing (name, format)
      else behindName.skipBlanks.close delimiters.closing (name, none)

/-! ### Instructions -/

/-- The words of an instruction that sets the format of a type: the name of the type, a
colon and a quoted text. It is absent unless all three begin. -/
def formatDirective? (cursor : Cursor) : Reading (String × String) :=
  match cursor.identifier? with
  | none => .ok none
  | some (typeName, behindName) =>
    match behindName.skipBlanks.accept? [':'] with
    | none => .ok none
    | some behindColon => behindColon.skipBlanks.quoted?.map (typeName, ·)

/-- The longest run of characters that can define a delimiter, unless it is empty. -/
def definition? (cursor : Cursor) : Option ({ text : List Char // text ≠ [] } × Cursor) :=
  match cursor.run isDefinitionChar with
  | ([], _) => none
  | (first :: more, next) => some (⟨first :: more, nofun⟩, next)

/-- The words of an instruction that chooses new delimiters: the opening one and the closing
one. -/
def delimiterDirective (cursor : Cursor) : Except ParseError (Delimiters × Cursor) :=
  match cursor.definition? with
  | none => .error (cursor.fault .missingOpeningDefinition)
  | some (opening, behindOpening) =>
    match behindOpening.skipBlanks.definition? with
    | none => .error (behindOpening.skipBlanks.fault .missingClosingDefinition)
    | some (closing, behindClosing) =>
      .ok ({ opening := opening.1, closing := closing.1, opening_ne_nil := opening.2,
             closing_ne_nil := closing.2 }, behindClosing.skipBlanks)

end Cursor

end Stencil
