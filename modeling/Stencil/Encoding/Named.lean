/-
This file holds the encodings of template files and finds them by name.

An encoding has many names. Names are compared in a normal form, in which letters are small
and every run of other signs between letters and digits is one low line; points are kept.
-/

import Stencil.Encoding.Utf16
import Stencil.Encoding.Utf8

namespace Stencil

/-- An encoding of texts. -/
inductive Encoding where
  | utf8
  /-- UTF-8 with a mark at the beginning, which is no part of the text. -/
  | markedUtf8
  | latin1
  | ascii
  /-- UTF-16 in the order that the mark at the beginning tells. -/
  | markedUtf16
  | utf16 (order : Encoding.Utf16.ByteOrder)
  deriving DecidableEq, Repr

namespace Encoding

/-! ### Names -/

/-- The normal form of the rest of a name; a sign that is no letter or digit has been met before
it or not. -/
def normalizeFrom (isFirst isBehindSign : Bool) : List Char → List Char
  | [] => []
  | character :: rest =>
    if character.isAlphanum || character = '.' then
      let letter := character.toLower
      let following := normalizeFrom false false rest
      if isBehindSign && !isFirst then '_' :: letter :: following else letter :: following
    else normalizeFrom isFirst true rest

/-- The normal form of a name. -/
def normalize (name : String) : String :=
  String.ofList (normalizeFrom true false name.toList)

/-- The name of an encoding in its normal form. -/
def name : Encoding → String
  | utf8 => "utf_8"
  | markedUtf8 => "utf_8_sig"
  | latin1 => "latin_1"
  | ascii => "ascii"
  | markedUtf16 => "utf_16"
  | utf16 .lesserFirst => "utf_16_le"
  | utf16 .greaterFirst => "utf_16_be"

/-- The other names of an encoding in their normal form. -/
def aliases : Encoding → List String
  | utf8 => ["u8", "utf", "utf8", "utf8_ucs2", "utf8_ucs4", "cp65001"]
  | markedUtf8 => []
  | latin1 =>
    ["8859", "cp819", "csisolatin1", "ibm819", "iso8859", "iso8859_1", "iso_8859_1",
      "iso_8859_1_1987", "iso_ir_100", "l1", "latin", "latin1"]
  | ascii =>
    ["646", "ansi_x3.4_1968", "ansi_x3_4_1968", "ansi_x3.4_1986", "cp367", "csascii",
      "ibm367", "iso646_us", "iso_646.irv_1991", "iso_ir_6", "us", "us_ascii"]
  | markedUtf16 => ["u16", "utf16"]
  | utf16 .lesserFirst => ["unicodelittleunmarked", "utf_16le"]
  | utf16 .greaterFirst => ["unicodebigunmarked", "utf_16be"]

/-- All encodings. -/
def all : List Encoding :=
  [utf8, markedUtf8, latin1, ascii, markedUtf16, utf16 .lesserFirst, utf16 .greaterFirst]

/-- A normal form with low lines in the place of its points. -/
def withoutPoints (name : String) : String :=
  String.ofList (name.toList.map fun character => if character = '.' then '_' else character)

/-- A normal form names an encoding. The points in it may stand for low lines, but not where they
are to make the encoding's own name. -/
def isNamed (encoding : Encoding) (normal : String) : Bool :=
  normal == encoding.name || encoding.aliases.contains normal ||
    encoding.aliases.contains (withoutPoints normal)

/-- The encoding of a name. -/
def ofName? (name : String) : Option Encoding :=
  all.find? fun encoding => encoding.isNamed (normalize name)

/-! ### Decoding -/

/-- Why bytes cannot be decoded. -/
inductive DecodeError where
  /-- Some of the bytes are no text. -/
  | fault (fault : Fault)
  /-- A mark is needed and there is none. -/
  | noMark
  deriving DecidableEq, Repr

/-- The text of bytes that are each the number of a character. -/
def decodeLatin1 (bytes : List UInt8) : List Char := bytes.map fun byte => Char.ofNat byte.toNat

/-- The text of bytes that are each the number of a common character. -/
def decodeAscii (bytes : List UInt8) : Except Fault (List Char) :=
  match bytes.findIdx? fun byte => 0x80 ≤ byte with
  | none => .ok (decodeLatin1 bytes)
  | some index =>
    .error {
      encoding := "ascii", first := bytes.getD index 0, start := index, count := 1,
      reason := .notCommon }

/-- The text of bytes that begin with a mark of their order. Bytes without a mark are read all
the same, and refused only if they are text. -/
def decodeMarkedUtf16 (bytes : List UInt8) : Except DecodeError (List Char) :=
  match Utf16.markOf? bytes with
  | some order => (Utf16.decodeFrom order 2 none (bytes.drop 2)).mapError .fault
  | none =>
    match Utf16.decode .lesserFirst bytes with
    | .error fault => .error (.fault fault)
    | .ok text => if bytes.length < 2 then .ok text else .error .noMark

/-- The text that bytes write in an encoding. -/
def decode (encoding : Encoding) (bytes : List UInt8) : Except DecodeError (List Char) :=
  match encoding with
  | utf8 => (Utf8.decode bytes).mapError .fault
  | markedUtf8 => (Utf8.decodeMarked bytes).mapError .fault
  | latin1 => .ok (decodeLatin1 bytes)
  | ascii => (decodeAscii bytes).mapError .fault
  | markedUtf16 => decodeMarkedUtf16 bytes
  | utf16 order => (Utf16.decode order bytes).mapError .fault

end Encoding

end Stencil
