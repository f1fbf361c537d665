/-
This file writes texts in quotes.

A quoted text stands between single quotes, unless it holds a single quote and no double
one. A backslash and the quote in use are written behind a backslash, and so are the line
feed, the carriage return and the tab, each with its letter. Every other character that is
not printable is written by its number, in as few of two, four or eight digits as it needs.
In the plain form a character beyond the common ones counts as not printable.
-/

import Stencil.Text.Printable

namespace Stencil.Text

/-- A number in hexadecimal digits, filled up with zeros to a length. -/
def hexDigits (length value : Nat) : List Char :=
  let digits := Nat.toDigits 16 value
  List.replicate (length - digits.length) '0' ++ digits

/-- A character by its number. -/
def numberEscape (character : Char) : List Char :=
  let code := character.toNat
  if code < 0x100 then '\\' :: 'x' :: hexDigits 2 code
  else if code < 0x10000 then '\\' :: 'u' :: hexDigits 4 code
  else '\\' :: 'U' :: hexDigits 8 code

/-- One character of a quoted text. -/
def quoteChar (quote : Char) (plain : Bool) (character : Char) : List Char :=
  if character = quote ∨ character = '\\' then ['\\', character]
  else if character = '\n' then ['\\', 'n']
  else if character = '\r' then ['\\', 'r']
  else if character = '\t' then ['\\', 't']
  else if isPrintable character && !(plain && decide (0x80 ≤ character.toNat)) then [character]
  else numberEscape character

/-- The quote that a text is put between. -/
def quoteFor (text : List Char) : Char :=
  if text.contains '\'' && !text.contains '"' then '"' else '\''

/-- A text in quotes; in the plain form it has common characters only. -/
def quote (text : List Char) (plain : Bool := false) : List Char :=
  let mark := quoteFor text
  mark :: (text.flatMap (quoteChar mark plain) ++ [mark])

/-- A string in quotes. -/
def quoted (text : String) (plain : Bool := false) : String :=
  String.ofList (quote text.toList plain)

end Stencil.Text
