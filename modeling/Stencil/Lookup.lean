/-
This file looks names up in a stack of scopes.

The innermost scope is asked first. A name without segments is that scope itself. A list
takes the first segment as a decimal index, and a bad index is an error; a map takes it as
a key. What is found takes the place of the scope, and the rest of the name is looked up in
it. Where a scope has no such key, or is of a kind that has no parts, the rest of the name
goes on to the next scope further out; what was found before is not given back. A name
that no scope knows is nil.
-/

import Stencil.Name
import Stencil.Value

namespace Stencil

/-- Why a name cannot be looked up. -/
inductive LookupError where
  /-- A segment is no decimal index. -/
  | invalidIndex (segment : String)
  /-- An index is not below the length of the list. -/
  | outOfBounds (index length : Nat)
  /-- An index has more digits than are converted. -/
  | indexTooLong (digits : Nat)
  deriving DecidableEq, Repr, Inhabited

namespace LookupError

/-- The wording of an error. -/
def message : LookupError → String
  | invalidIndex segment => "\"" ++ segment ++ "\" is not a valid array index"
  | outOfBounds index length =>
    "Index " ++ toString index ++ " is out of bounds for array of length " ++ toString length
  | indexTooLong digits =>
    Number.maxDigitsMessage (": value has " ++ toString digits ++ " digits")

end LookupError

/-- The index that a segment writes: common decimal digits only, and zeros in front of them
count for nothing. -/
def parseIndex (segment : String) : Except LookupError Nat :=
  let digits := segment.toList
  if digits = [] ∨ ¬ digits.all Char.isDigit then .error (.invalidIndex segment)
  else if Number.maxDigits < digits.length then .error (.indexTooLong digits.length)
  else .ok (Text.natOfDigits digits)

/-- What following a name into a value comes to. -/
inductive Followed where
  /-- The name ends at a value. -/
  | found (value : Value)
  /-- An index in the name is bad. -/
  | failed (error : LookupError)
  /-- The value that was reached does not know the rest of the name. -/
  | stuck (rest : List String)

namespace Value

/-- Follows a name into a value as far as it goes. -/
def follow : List String → Value → Followed
  | [], value => .found value
  | segment :: rest, list items =>
    match parseIndex segment with
    | .error error => .failed error
    | .ok index =>
      match items[index]? with
      | none => .failed (.outOfBounds index items.length)
      | some item => follow rest item
  | segment :: rest, map entries =>
    match Entries.find? entries segment with
    | none => .stuck (segment :: rest)
    | some value => follow rest value
  | segment :: rest, nil => .stuck (segment :: rest)
  | segment :: rest, bool _ => .stuck (segment :: rest)
  | segment :: rest, string _ => .stuck (segment :: rest)
  | segment :: rest, formattable _ => .stuck (segment :: rest)

end Value

/-- A stack of scopes, innermost first. -/
abbrev Scopes := List Value

namespace Scopes

/-- Looks the segments of a name up in a stack of scopes. -/
def lookup (segments : List String) : Scopes → Except LookupError Value
  | [] => .ok .nil
  | scope :: outer =>
    match scope.follow segments with
    | .found value => .ok value
    | .failed error => .error error
    | .stuck rest => lookup rest outer

/-- Looks a name up in a stack of scopes. -/
def resolve (scopes : Scopes) (name : Name) : Except LookupError Value :=
  lookup name.segments scopes

end Scopes

end Stencil
