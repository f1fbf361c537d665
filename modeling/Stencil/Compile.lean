/-
This file compiles the text of a template into a list of trees.

The items of the text are taken one by one. Sections that are open stand on a stack, each
with the trees that came before it on its level, so the depth of a template is no matter.
A closing tag has to name the innermost open section, and at the end of the text no
section may be open. The first fault ends the compilation: whether it is found in an item
or in the nesting of the items, it is the one that comes first in the text. Every change
of delimiters up to there is noted.
-/

import Stencil.Item
import Stencil.Token

namespace Stencil

/-- A section that is open, with the trees before it on its level, the last one first. -/
structure OpenSection where
  name : Name
  inverted : Bool
  before : List Token

/-- A change of the delimiters in force, with the position behind the instruction. -/
structure DelimiterChange where
  old : Delimiters
  new : Delimiters
  position : Position
  deriving DecidableEq, Repr

/-- A template that is being put together. -/
structure Assembly where
  delimiters : Delimiters
  /-- The trees on the level of the innermost open section, the last one first. -/
  level : List Token := []
  /-- The open sections, the innermost one first. -/
  around : List OpenSection := []
  /-- The changes of delimiters, the last one first. -/
  changes : List DelimiterChange := []

/-- What compiling a text gives: the trees or the fault, and the changes of delimiters in
order. -/
structure Compilation where
  outcome : Except ParseError (List Token)
  changes : List DelimiterChange

namespace Assembly

/-- The assembly with one more tree on the innermost level. -/
def add (assembly : Assembly) (token : Token) : Assembly :=
  { assembly with level := token :: assembly.level }

/-- The assembly behind one more item. A closing tag that no open section waits for is no
item of any text; it is taken for the fault of a tag without a name. -/
def take (assembly : Assembly) (placed : PlacedItem) : Except ParseError Assembly :=
  match placed.item with
  | .text content => .ok (assembly.add (.text content))
  | .insert name format => .ok (assembly.add (.insert name format))
  | .setFormat typeName format => .ok (assembly.add (.setFormat typeName format))
  | .redelimited chosen =>
    let change := { old := assembly.delimiters, new := chosen, position := placed.stop }
    .ok { assembly with delimiters := chosen, changes := change :: assembly.changes }
  | .opened name inverted =>
    let opened := { name, inverted, before := assembly.level }
    .ok { assembly with level := [], around := opened :: assembly.around }
  | .closed name =>
    match assembly.around with
    | [] => .error { kind := .expectedName, position := placed.start }
    | innermost :: around =>
      if name = innermost.name then
        let tree := .block innermost.name innermost.inverted assembly.level.reverse
        .ok { assembly with level := tree :: innermost.before, around }
      else
        .error {
          kind := .mismatchedSectionEnd
          position := placed.start
          details := [name.toString, innermost.name.toString] }

/-- What the assembly comes to where the items end. -/
def finish (assembly : Assembly) (ending : Except ParseError Position) :
    Except ParseError (List Token) :=
  match ending with
  | .error fault => .error fault
  | .ok position =>
    match assembly.around with
    | [] => .ok assembly.level.reverse
    | innermost :: _ =>
      .error { kind := .missingSectionEnd, position, details := [innermost.name.toString] }

/-- Takes all items of a text, up to the first fault. -/
def takeAll (assembly : Assembly) (ending : Except ParseError Position) :
    List PlacedItem → Compilation
  | [] => { outcome := assembly.finish ending, changes := assembly.changes.reverse }
  | placed :: rest =>
    match assembly.take placed with
    | .error fault => { outcome := .error fault, changes := assembly.changes.reverse }
    | .ok next => next.takeAll ending rest

end Assembly

/-- Compiles the text of a template that begins with the given delimiters in force. -/
def compile (delimiters : Delimiters) (text : String) : Compilation :=
  let itemized := (Cursor.ofText text.toList).itemize delimiters 0
  { delimiters : Assembly }.takeAll itemized.ending itemized.items

end Stencil
