/-
This file holds the paths of files.

A path is a list of steps from the place where it begins: the working directory, the root,
or the other root that two slashes in front stand for. Slashes between the steps count
once, a slash at the end counts for nothing, and a step of one dot is no step. A step of
two dots is kept, since what it leads to depends on the files. A path without steps from
the working directory is written as one dot.
-/

import Stencil.Name

namespace Stencil.Files

/-- The place where a path begins. -/
inductive Anchor where
  | workingDirectory
  | root
  /-- The root that is written as two slashes, and not more. -/
  | doubleRoot
  deriving DecidableEq, Repr, Inhabited

namespace Anchor

/-- The anchor that a number of slashes in front of a path stands for. -/
def ofSlashes : Nat → Anchor
  | 0 => workingDirectory
  | 2 => doubleRoot
  | _ => root

/-- The slashes that an anchor is written as. -/
def text : Anchor → String
  | workingDirectory => ""
  | root => "/"
  | doubleRoot => "//"

end Anchor

/-- The path of a file. -/
structure Path where
  anchor : Anchor := .workingDirectory
  steps : List String := []
  deriving DecidableEq, Repr, Inhabited

namespace Path

/-- Reads a path from its text. -/
def ofText (text : String) : Path where
  anchor := .ofSlashes (text.toList.takeWhile (· = '/')).length
  steps := ((text.toList.splitOn '/').map String.ofList).filter fun step =>
    step ≠ "" && step ≠ "."

/-- The text of a path. -/
protected def toString (path : Path) : String :=
  if path = {} then "." else path.anchor.text ++ "/".intercalate path.steps

instance : ToString Path := ⟨Path.toString⟩

/-- The name of the home directory in the working directory. -/
def home : String := "home"

/-- The path with the home directory in place of a first step that is a tilde; none where the
tilde stands before the name of somebody else. -/
def expandHome? (path : Path) : Option Path :=
  match path.anchor, path.steps with
  | .workingDirectory, first :: rest =>
    if first = "~" then some { path with steps := home :: rest }
    else if first.toList.head? = some '~' then none
    else some path
  | _, _ => some path

end Path

end Stencil.Files
