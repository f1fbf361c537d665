/-
This file holds families of cursors over one text.

The cursors of a family are numbered. An action is carried out by one of them and leaves
the others where they are; a clone is a new cursor of the family at the same place, and a
cursor that commits to another one moves to its place.

The first cursor stands at an index that is given. A negative index counts from the end of
the text, and reading from there runs through the end of the text and then through the text
as a whole; a cursor that stands further back than the text is long can read nothing, and
asking it to is a fault. Searching and comparing look at the text itself, from the place at
which the cursor stands and up to the end: a cursor that was set beyond the end finds
nothing, not even the empty literal, and one that is out of reach looks at the whole text.
-/

import Stencil.Cursor

namespace Stencil

/-- What a cursor of a family is asked to do. -/
inductive CursorAction where
  /-- Read the next character. -/
  | next
  /-- Look at the next character. -/
  | peek
  /-- Read a number of characters; a number that is not positive reads none. -/
  | advance (count : Int)
  /-- Read a literal if it is next; an empty one never is. -/
  | matchLiteral (literal : List Char)
  /-- Search the literal from here on. -/
  | find (literal : List Char)
  /-- Read the blanks that are next. -/
  | skip
  /-- Make a new cursor at this place. -/
  | clone
  /-- Move to the place of another cursor. -/
  | commit (other : Nat)
  /-- Describe the place. -/
  | describe
  deriving DecidableEq, Repr

/-- What an action answers. -/
inductive CursorAnswer where
  | none
  | text (value : List Char)
  | truth (value : Bool)
  | index (value : Nat)
  /-- The literal was not found. -/
  | notFound
  /-- There is no character that far before the beginning. -/
  | outOfReach
  deriving DecidableEq, Repr

/-- The cursors over one text, in the order in which they were made. -/
structure CursorFamily where
  text : List Char
  cursors : List Cursor

namespace CursorFamily

/-! ### Places -/

/-- The place of the text at which an index stands. -/
def placeOf (text : List Char) (index : Int) : Nat :=
  if index < 0 then (text.length + index).toNat else index.toNat

/-- What is read from an index on. -/
def aheadOf (text : List Char) (index : Int) : List Char :=
  let rest := text.drop (placeOf text index)
  if index < 0 then rest ++ text else rest

/-- The family of one cursor over a text, at an index and with a position that are taken as
they are given. -/
def ofText (text : List Char) (index : Int := 0) (position : Position := .start) :
    CursorFamily where
  text := text
  cursors := [{ ahead := aheadOf text index, index, position }]

/-- The cursor of a number; there is none behind the last one. -/
def cursor? (family : CursorFamily) (number : Nat) : Option Cursor := family.cursors[number]?

/-- The family with one of its cursors moved. -/
def move (family : CursorFamily) (number : Nat) (cursor : Cursor) : CursorFamily :=
  { family with cursors := family.cursors.set number cursor }

/-- A cursor stands at the end of the text or beyond it. -/
def isAtEnd (family : CursorFamily) (cursor : Cursor) : Bool :=
  decide (family.text.length ≤ cursor.index)

/-- A cursor stands so far before the beginning that it can read nothing. -/
def isOutOfReach (family : CursorFamily) (cursor : Cursor) : Bool :=
  decide (cursor.index < -family.text.length)

/-- A literal stands in the text at the place of a cursor. -/
def standsAt (family : CursorFamily) (cursor : Cursor) (literal : List Char) : Bool :=
  literal.isPrefixOf (family.text.drop (placeOf family.text cursor.index))

/-- The place at which a literal begins first, from a cursor on. -/
def find? (family : CursorFamily) (cursor : Cursor) (literal : List Char) : Option Nat :=
  let place := placeOf family.text cursor.index
  if family.text.length < place then .none
  else (distanceTo? literal (family.text.drop place)).map (place + ·)

/-! ### Actions -/

/-- A place as it is described. -/
def description (cursor : Cursor) : String :=
  "Source(index=" ++ toString cursor.index ++ ", position=" ++ cursor.position.toString ++ ")"

/-- The wording of the fault of a cursor that is out of reach. -/
def outOfReachMessage : String := "string index out of range"

/-- Lets one cursor read on, unless it is out of reach. -/
def read (family : CursorFamily) (number : Nat) (cursor : Cursor)
    (outcome : CursorAnswer × Cursor) : CursorAnswer × CursorFamily :=
  if family.isOutOfReach cursor then (.outOfReach, family)
  else (outcome.1, family.move number outcome.2)

/-- Lets one cursor act, and gives the answer. -/
def act (family : CursorFamily) (number : Nat) (cursor : Cursor) (action : CursorAction) :
    CursorAnswer × CursorFamily :=
  match action with
  | .next =>
    family.read number cursor
      (match cursor.next? with
      | .none => (.none, cursor)
      | some (character, next) => (.text [character], next))
  | .peek =>
    family.read number cursor
      (match cursor.peek? with
      | .none => (.none, cursor)
      | some character => (.text [character], cursor))
  | .advance count =>
    if count ≤ 0 then (.text [], family)
    else
      let (read, next) := cursor.advance count.toNat
      family.read number cursor (.text read, next)
  | .matchLiteral literal =>
    if literal.isEmpty || !family.standsAt cursor literal then (.truth false, family)
    else family.read number cursor (.truth true, (cursor.advance literal.length).2)
  | .find literal =>
    match family.find? cursor literal with
    | .none => (.notFound, family)
    | some index => (.index index, family)
  | .skip => family.read number cursor (.none, cursor.skipBlanks)
  | .clone =>
    (.index family.cursors.length, { family with cursors := family.cursors ++ [cursor] })
  | .commit other =>
    match family.cursor? other with
    | .none => (.none, family)
    | some place => (.none, family.move number place)
  | .describe => (.text (description cursor).toList, family)

end CursorFamily

end Stencil
