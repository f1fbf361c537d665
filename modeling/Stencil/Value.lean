/-
This file holds the values that a template is rendered against.

There are six kinds of value: nil, booleans, strings, lists, maps, and formattable values.
A map is a table in which every key stands once; the order of its entries has no effect on
what is rendered. The kind of a value is named in errors, and a formattable value is named
after its type.
-/

import Stencil.Entries
import Stencil.Formattable

namespace Stencil

/-- A value that a template is rendered against. -/
inductive Value where
  | nil
  | bool (value : Bool)
  | string (value : String)
  | list (items : List Value)
  | map (entries : List (String × Value))
  | formattable (object : Formattable)

instance : Inhabited Value := ⟨.nil⟩

namespace Value

/-- The name of a value's kind. -/
def kind : Value → String
  | nil => "nil"
  | bool _ => "boolean"
  | string _ => "string"
  | list _ => "array"
  | map _ => "map"
  | formattable object => object.typeName

/-- A boolean as text. -/
def boolText (value : Bool) : String := if value then "true" else "false"

/-- The text of a value that has one of its own. -/
def text? : Value → Option String
  | nil => some "nil"
  | bool value => some (boolText value)
  | string value => some value
  | list _ | map _ | formattable _ => none

end Value

end Stencil
