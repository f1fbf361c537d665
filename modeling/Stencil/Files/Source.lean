/-
This file reads the text of a template from a file.

The path is normalised and a tilde in front of it stands for the home directory. The file
is found first and its encoding after that, so that a missing file is reported before an
unknown encoding. The bytes are decoded as a whole, and then the ends of lines are brought
to one form. What the files or the bytes are to blame for is a failure to load the path;
the other errors are faults of what was asked for.
-/

import Stencil.Encoding.Named
import Stencil.Files.Tree
import Stencil.Text.Newline

namespace Stencil.Files

/-- Why the file at a path cannot be loaded. -/
inductive LoadCause where
  /-- There is no such file. -/
  | file (error : FileError)
  /-- The bytes of the file are no text. -/
  | encoding (fault : Encoding.Fault)
  deriving DecidableEq, Repr

namespace LoadCause

/-- The wording of a cause. -/
def message (cause : LoadCause) (path : Path) : String :=
  match cause with
  | file error => error.message path
  | encoding fault => fault.message

end LoadCause

/-- Why the text of a template cannot be read. -/
inductive ReadError where
  /-- The home directory of somebody else is not known. -/
  | unknownHome
  /-- The path holds the character of number zero. -/
  | embeddedNull
  /-- The name of the encoding holds the character of number zero. -/
  | embeddedNullInEncoding
  /-- There is no encoding of this name. -/
  | unknownEncoding (name : String)
  /-- The bytes lack the mark that their encoding begins with. -/
  | noByteOrderMark
  /-- The file at a path cannot be loaded. -/
  | failed (path : Path) (cause : LoadCause)
  deriving DecidableEq, Repr

/-- The wording of a failure to load a path, with a reason unless it is empty. -/
def loadFailure (path : Path) (reason : String) : String :=
  "Failed to load " ++ path.toString ++ if reason = "" then "" else ": " ++ reason

namespace ReadError

/-- The wording of an error. -/
def message : ReadError → String
  | unknownHome => "Could not determine home directory."
  | embeddedNull => "embedded null byte"
  | embeddedNullInEncoding => "embedded null character"
  | unknownEncoding name => "unknown encoding: " ++ name
  | noByteOrderMark => "UTF-16 stream does not start with BOM"
  | failed path cause => loadFailure path (cause.message path)

end ReadError

/-- The encoding of a template file that is given no other. -/
def defaultEncoding : String := "utf-8"

/-- The text that the bytes of a file write in the encoding of a name. -/
def decodeFile (path : Path) (encoding : String) (bytes : List UInt8) : Except ReadError String :=
  match Encoding.ofName? encoding with
  | none => .error (.unknownEncoding encoding)
  | some encoding =>
    match encoding.decode bytes with
    | .error (.fault fault) => .error (.failed path (.encoding fault))
    | .error .noMark => .error .noByteOrderMark
    | .ok text => .ok (String.ofList (Text.unifyNewlines text))

/-- A text holds the character of number zero, which no name of a file or an encoding holds. -/
def hasNull (text : String) : Bool := text.toList.contains '\x00'

/-- Reads the text of the template at a path, in the encoding of a name. -/
def readSource (tree : Tree) (path encoding : String) : Except ReadError String :=
  let path := Path.ofText path
  match path.expandHome? with
  | none => .error (if path.steps.head?.any hasNull then .embeddedNull else .unknownHome)
  | some path =>
    if hasNull encoding then .error .embeddedNullInEncoding
    else if hasNull path.toString then .error .embeddedNull
    else
      match tree.read path with
      | .error error => .error (.failed path (.file error))
      | .ok bytes => decodeFile path encoding bytes

end Stencil.Files
