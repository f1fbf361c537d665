/-
This file holds the tokens of a compiled template.

A compiled template is a list of trees. Its leaves are literal text, inserts and
instructions that set the format of a type; its inner nodes are sections, whose children
are rendered as often as the value that the section names says. A tree can also be laid
out flat, with an opening and a closing entry around the children of a section; two lists
of trees with one layout are equal.
-/

import Stencil.Name

namespace Stencil

/-- One node of a compiled template. -/
inductive Token where
  /-- Literal text. -/
  | text (content : String)
  /-- The text of a value, in its own format or in the one given here. -/
  | insert (name : Name) (format : Option String)
  /-- A section: its children are rendered for the value that is named. -/
  | block (name : Name) (inverted : Bool) (children : List Token)
  /-- From here on, values of a type are inserted in this format. -/
  | setFormat (typeName format : String)
  deriving Repr, Inhabited

namespace Token

/-! ### Equality -/

mutual

/-- Two trees are decided to be equal node by node. -/
def decideEq : (first second : Token) → Decidable (first = second)
  | text content, text content' =>
    if same : content = content' then isTrue (by rw [same])
    else isFalse fun equal => same (by injection equal)
  | insert name format, insert name' format' =>
    if same : name = name' ∧ format = format' then isTrue (by rw [same.1, same.2])
    else isFalse fun equal => same (by injection equal; constructor <;> assumption)
  | block name inverted children, block name' inverted' children' =>
    if same : name = name' ∧ inverted = inverted' then
      match decideListEq children children' with
      | isTrue equalChildren => isTrue (by rw [same.1, same.2, equalChildren])
      | isFalse differ => isFalse fun equal => differ (by injection equal)
    else isFalse fun equal => same (by injection equal; constructor <;> assumption)
  | setFormat typeName format, setFormat typeName' format' =>
    if same : typeName = typeName' ∧ format = format' then isTrue (by rw [same.1, same.2])
    else isFalse fun equal => same (by injection equal; constructor <;> assumption)
  | text _, insert _ _ | text _, block _ _ _ | text _, setFormat _ _
  | insert _ _, text _ | insert _ _, block _ _ _ | insert _ _, setFormat _ _
  | block _ _ _, text _ | block _ _ _, insert _ _ | block _ _ _, setFormat _ _
  | setFormat _ _, text _ | setFormat _ _, insert _ _ | setFormat _ _, block _ _ _ =>
    isFalse nofun

/-- Two lists of trees are decided to be equal tree by tree. -/
def decideListEq : (first second : List Token) → Decidable (first = second)
  | [], [] => isTrue rfl
  | [], _ :: _ | _ :: _, [] => isFalse nofun
  | token :: rest, token' :: rest' =>
    match decideEq token token', decideListEq rest rest' with
    | isTrue sameToken, isTrue sameRest => isTrue (by rw [sameToken, sameRest])
    | isFalse differ, _ => isFalse fun equal => differ (by injection equal)
    | _, isFalse differ => isFalse fun equal => differ (by injection equal)

end

instance : DecidableEq Token := decideEq

/-! ### The flat layout -/

/-- One entry of the flat layout of a template. -/
inductive Entry where
  | text (content : String)
  | insert (name : Name) (format : Option String)
  | opened (name : Name) (inverted : Bool)
  | closed
  | setFormat (typeName format : String)
  deriving DecidableEq, Repr, Inhabited

mutual

/-- The entries of one tree, in the order in which they are met in the template, in front of
the entries of what comes behind it. -/
def layoutBefore : Token → List Entry → List Entry
  | text content, rest => .text content :: rest
  | insert name format, rest => .insert name format :: rest
  | block name inverted children, rest =>
    .opened name inverted :: layoutAllBefore children (.closed :: rest)
  | setFormat typeName format, rest => .setFormat typeName format :: rest

/-- The entries of a list of trees, one tree behind the other, in front of the entries of what
comes behind them. -/
def layoutAllBefore : List Token → List Entry → List Entry
  | [], rest => rest
  | token :: tokens, rest => layoutBefore token (layoutAllBefore tokens rest)

end

/-- The entries of a template. -/
def layout (tokens : List Token) : List Entry := layoutAllBefore tokens []

end Token

end Stencil
