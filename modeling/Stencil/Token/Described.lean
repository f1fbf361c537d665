/-
This file describes compiled templates to a reader.

A tree is described by the name of its kind and its fields, each with its name; lists
stand in parentheses, and a list of one item has a comma behind it. Texts stand in quotes
as they do in messages.
-/

import Stencil.FormatTable
import Stencil.Text.Quoted
import Stencil.Token

namespace Stencil

/-- A list as it is described, from its items. -/
def describedTuple : List String → String
  | [item] => "(" ++ item ++ ",)"
  | items => "(" ++ ", ".intercalate items ++ ")"

/-- A text that may be missing as it is described. -/
def describedOption : Option String → String
  | none => "None"
  | some text => Text.quoted text

/-- A name as it is described, by its segments. -/
def Name.described (name : Name) : String :=
  "Name(segments=" ++ describedTuple (name.segments.map Text.quoted) ++ ")"

namespace Token

mutual

/-- A tree as it is described. -/
def described : Token → String
  | text content => "Text(text=" ++ Text.quoted content ++ ")"
  | insert name format =>
    "Insert(name=" ++ name.described ++ ", format=" ++ describedOption format ++ ")"
  | block name inverted children =>
    "Section(name=" ++ name.described ++ ", inverted=" ++ (if inverted then "True" else "False") ++
      ", children=" ++ describedTuple (describedEach children) ++ ")"
  | setFormat typeName format =>
    "SetFormat(type_name=" ++ Text.quoted typeName ++ ", format=" ++ Text.quoted format ++ ")"

/-- The trees of a list as they are described, one by one. -/
def describedEach : List Token → List String
  | [] => []
  | token :: rest => described token :: describedEach rest

end

end Token

/-- A table of formats as it is described. -/
def FormatTable.described (table : FormatTable) : String :=
  "\x7b" ++ ", ".intercalate (table.entries.map fun (typeName, format) =>
    Text.quoted typeName ++ ": " ++ Text.quoted format) ++ "\x7d"

end Stencil
