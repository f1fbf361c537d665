/-
This file fills the arguments of a log message into its pattern.

A pattern is text with directives in it. Two percent signs in a row are one percent sign and
take no argument; a percent sign with anything else behind it begins a directive, which takes
the next argument. Directives are read and written one behind the other, so of two faults
the first one is reported, and arguments that are left over come last. A pattern that is
given no arguments is not read at all.
-/

import Stencil.Log.Message.Layout

namespace Stencil.Log

variable [Memory]

/-- Fills arguments into the rest of a pattern, which begins at an index. -/
def fillFrom (index : Nat) (pattern : List Char) (arguments : Arguments) :
    Except MessageFault (List Char) :=
  match pattern with
  | [] => if arguments.isSpent then .ok [] else .error .tooManyArguments
  | '%' :: '%' :: rest => (fillFrom (index + 2) rest arguments).map ('%' :: ·)
  | first :: rest =>
    if first ≠ '%' then (fillFrom (index + 1) rest arguments).map (first :: ·)
    else
      match _read : Directive.read arguments rest with
      | .error fault => .error fault
      | .ok (directive, arguments, behind) =>
        let behindIndex := index + 1 + (rest.length - behind.length)
        match arguments.take with
        | .error fault => .error fault
        | .ok (argument, arguments) =>
          match directive.write (behindIndex - 1) argument with
          | .error fault => .error fault
          | .ok written => (fillFrom behindIndex behind arguments).map (written ++ ·)
  termination_by pattern.length
  decreasing_by
    · simp only [List.length_cons]
      omega
    · simp
    · have := Directive.read_within _ rest _ _ _ _read
      simp only [List.length_cons]
      omega

/-- The text of a message. A pattern without arguments is the text itself. -/
def messageText (pattern : String) (arguments : List Json) : Except MessageFault String :=
  if arguments.isEmpty then .ok pattern
  else (fillFrom 0 pattern.toList (.ofList arguments)).map String.ofList

end Stencil.Log
