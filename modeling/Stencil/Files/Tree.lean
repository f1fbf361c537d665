/-
This file holds trees of files and finds files in them.

A tree is a file with its bytes or a directory with named entries. A path is followed step
by step from the working directory; a step of two dots leads to the directory around, and
around the working directory there is nothing but empty directories. A step can only be
taken from a directory, and only under a name that is not too long and that stands there.
-/

import Stencil.Entries
import Stencil.Files.Path
import Stencil.Text.Quoted

namespace Stencil.Files

/-! ### Errors -/

/-- Why no file is found at a path. -/
inductive FileError where
  | notFound
  | notADirectory
  | isADirectory
  | nameTooLong
  deriving DecidableEq, Repr

namespace FileError

/-- The number of an error. -/
def number : FileError → Nat
  | notFound => 2
  | notADirectory => 20
  | isADirectory => 21
  | nameTooLong => 36

/-- The words for an error. -/
def words : FileError → String
  | notFound => "No such file or directory"
  | notADirectory => "Not a directory"
  | isADirectory => "Is a directory"
  | nameTooLong => "File name too long"

/-- The wording of an error at a path. -/
def message (error : FileError) (path : Path) : String :=
  "[Errno " ++ toString error.number ++ "] " ++ error.words ++ ": " ++ Text.quoted path.toString

end FileError

/-! ### Trees -/

/-- A tree of files. -/
inductive Tree where
  | file (content : List UInt8)
  | directory (entries : List (String × Tree))
  deriving Inhabited

namespace Tree

/-- A directory without entries. -/
def empty : Tree := .directory []

/-- The tree with an item behind some steps. The directories on the way are made, and a
directory that is there already is not emptied. -/
def place (item : Tree) : List String → Tree → Tree
  | [], tree =>
    match item, tree with
    | directory [], directory entries => directory entries
    | item, _ => item
  | _ :: _, file content => file content
  | step :: rest, directory entries =>
    directory (Entries.put entries step
      (place item rest ((Entries.find? entries step).getD empty)))

/-- The item that a list of paths names: the bytes of a file, or an empty directory. -/
def ofContent : Option (List UInt8) → Tree
  | none => empty
  | some content => file content

/-- The directories that some steps leave again by two dots, and the steps that stay; the ones
that have been taken before are given backwards. -/
def settle (taken : List String) : List String → List (List String) × List String
  | [] => ([], taken.reverse)
  | step :: rest =>
    if step = ".." then
      let (left, steps) := settle (taken.drop 1) rest
      (taken.reverse :: left, steps)
    else settle (step :: taken) rest

/-- The tree with an item at a path. A directory that the path leaves again is made, too. -/
def placeAt (tree : Tree) (path : Path) (item : Tree) : Tree :=
  let (left, steps) := settle [] path.steps
  place item steps (left.foldl (fun tree steps => place empty steps tree) tree)

/-- The tree of a list of paths, each with the bytes of a file or with none for a directory. -/
def ofList (items : List (String × Option (List UInt8))) : Tree :=
  items.foldl (fun tree item => tree.placeAt (Path.ofText item.1) (ofContent item.2)) empty

/-- The greatest number of bytes in a name. -/
def maxNameSize : Nat := 255

/-- The greatest number of bytes in the text of a path. -/
def maxPathSize : Nat := 4095

/-- The tree at the end of some steps from a directory; the directories around it stand on a
stack, the innermost first. -/
def follow (around : List Tree) (tree : Tree) : List String → Except FileError Tree
  | [] => .ok tree
  | step :: rest =>
    match tree with
    | file _ => .error .notADirectory
    | directory entries =>
      if step = ".." then
        match around with
        | [] => follow [] empty rest
        | outer :: around => follow around outer rest
      else if maxNameSize < step.utf8ByteSize then .error .nameTooLong
      else
        match Entries.find? entries step with
        | none => .error .notFound
        | some found => follow (directory entries :: around) found rest

/-- The bytes of the file at a path, in a tree that is the working directory. -/
def read (tree : Tree) (path : Path) : Except FileError (List UInt8) :=
  if maxPathSize < path.toString.utf8ByteSize then .error .nameTooLong
  else
    let start :=
      match path.anchor with
      | .workingDirectory => tree
      | .root | .doubleRoot => empty
    match follow [] start path.steps with
    | .error error => .error error
    | .ok (directory _) => .error .isADirectory
    | .ok (file content) => .ok content

end Tree

end Stencil.Files
