/-
This file holds plain structured data and writes them in two notations.

Plain data are null, truth values, numbers, texts, lists and objects; the fields of an
object stand in the order in which they were given. One notation is JSON on one line, with
a blank behind every comma and colon: in a text the quote, the backslash and the control
characters are escaped, each by its letter if it has one, and everything else stands as it
is. The other notation describes data to a reader: texts stand in quotes as they do in
messages, and the three words are capitalised.
-/

import Stencil.Number.Decimal
import Stencil.Text.Quoted

namespace Stencil

/-- Plain structured data. -/
inductive Json where
  | null
  | bool (value : Bool)
  | integer (value : Int)
  | real (value : Number.Binary64)
  | text (value : String)
  | list (items : List Json)
  | object (fields : List (String × Json))
  deriving Inhabited

namespace Json

/-! ### JSON notation -/

/-- One character of a text in JSON notation. -/
def escapeChar (character : Char) : List Char :=
  if character = '"' ∨ character = '\\' then ['\\', character]
  else if character = '\n' then ['\\', 'n']
  else if character = '\r' then ['\\', 'r']
  else if character = '\t' then ['\\', 't']
  else if character = '\x08' then ['\\', 'b']
  else if character = '\x0c' then ['\\', 'f']
  else if character.toNat < 0x20 then '\\' :: 'u' :: Text.hexDigits 4 character.toNat
  else [character]

/-- A text in JSON notation. -/
def escaped (text : String) : String :=
  String.ofList ('"' :: (text.toList.flatMap escapeChar ++ ['"']))

/-- A number of the double format in JSON notation, which has words of its own for what has
no digits. -/
def realText : Number.Binary64 → String
  | .nan => "NaN"
  | .infinite negative => if negative then "-Infinity" else "Infinity"
  | .finite negative significand exponent =>
    (Number.Binary64.finite negative significand exponent).text

mutual

/-- Data in JSON notation, on one line. -/
def line : Json → String
  | null => "null"
  | bool value => if value then "true" else "false"
  | integer value => toString value
  | real value => realText value
  | text value => escaped value
  | list items => "[" ++ ", ".intercalate (itemLines items) ++ "]"
  | object fields => "\x7b" ++ ", ".intercalate (fieldLines fields) ++ "\x7d"

/-- The items of a list in JSON notation. -/
def itemLines : List Json → List String
  | [] => []
  | item :: rest => line item :: itemLines rest

/-- The fields of an object in JSON notation. -/
def fieldLines : List (String × Json) → List String
  | [] => []
  | (key, value) :: rest => (escaped key ++ ": " ++ line value) :: fieldLines rest

end

/-! ### Description -/

mutual

/-- Data as they are described to a reader. -/
def described : Json → String
  | null => "None"
  | bool value => if value then "True" else "False"
  | integer value => toString value
  | real value => value.text
  | text value => Text.quoted value
  | list items => "[" ++ ", ".intercalate (describedItems items) ++ "]"
  | object fields => "\x7b" ++ ", ".intercalate (describedFields fields) ++ "\x7d"

/-- The items of a list as they are described. -/
def describedItems : List Json → List String
  | [] => []
  | item :: rest => described item :: describedItems rest

/-- The fields of an object as they are described. -/
def describedFields : List (String × Json) → List String
  | [] => []
  | (key, value) :: rest => (Text.quoted key ++ ": " ++ described value) :: describedFields rest

end

/-- Data as they stand in a message: a text as it is, and all else as it is described. -/
def display : Json → String
  | text value => value
  | data => data.described

end Json

end Stencil
