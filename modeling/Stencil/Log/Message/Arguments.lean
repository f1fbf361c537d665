/-
This file holds the arguments of a log message and how directives take them.

As a rule every directive takes the next argument, and every argument has to be taken. A
single argument that is an object with fields is another matter: a directive may name one of
the fields and take that, as often as it likes, and nothing has to be taken. The object as a
whole is there to be taken once, until a field has been named; from then on it is the field
that was named last.
-/

import Stencil.Entries
import Stencil.Json
import Stencil.Log.Message.Fault

namespace Stencil.Log

/-- The arguments that are still to be taken. -/
inductive Arguments where
  /-- Arguments that all have to be taken. -/
  | each (arguments : List Json)
  /-- The fields of a single argument, and what the next directive takes. -/
  | named (fields : Entries Json) (next : Option Json)

namespace Arguments

/-- The arguments of a message. -/
def ofList : List Json → Arguments
  | [.object (field :: fields)] => named (field :: fields) (some (.object (field :: fields)))
  | arguments => each arguments

/-- The next argument, and the arguments behind it. -/
def next? : Arguments → Option (Json × Arguments)
  | each [] => none
  | each (argument :: rest) => some (argument, each rest)
  | named _ none => none
  | named fields (some argument) => some (argument, named fields none)

/-- The next argument, or the fault that there is none. -/
def take (arguments : Arguments) : Except MessageFault (Json × Arguments) :=
  match arguments.next? with
  | none => .error .notEnoughArguments
  | some taken => .ok taken

/-- The arguments of which a field is the next one. -/
def select (arguments : Arguments) (name : String) : Except MessageFault Arguments :=
  match arguments with
  | each _ => .error .notAnObject
  | named fields _ =>
    match fields.find? name with
    | none => .error (.noSuchField name)
    | some argument => .ok (named fields (some argument))

/-- The fields of the arguments can be named. -/
def areNamed : Arguments → Bool
  | each _ => false
  | named _ _ => true

/-- No argument is left over that has to be taken. -/
def isSpent : Arguments → Bool
  | each arguments => arguments.isEmpty
  | named _ _ => true

end Arguments

end Stencil.Log
