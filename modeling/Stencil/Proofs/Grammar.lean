/-
This file holds the grammar of templates, apart from the functions that read them.

An item of a template is a run of literal text, a tag or an instruction. A tag or an
instruction is spelled by its rule: the delimiters in force, a mark, a name or the words of the
instruction, and blanks in the places where they may stand. A text is a sequence of items when
it is their spellings one behind the other, where an instruction that chooses delimiters sets
those of everything behind it, and where a run of literal text goes on to the next opening
delimiter. A list of trees is laid out as items with a closing tag of its own name behind the
children of every section.
-/

import Stencil.Compile

namespace Stencil

/-! ### Words -/

/-- A text of blanks only; it may be empty. -/
def Blanks (text : List Char) : Prop := ∀ character ∈ text, Text.isBlank character = true

/-- A run of identifier characters that is not empty. -/
def IsIdentifier (text : List Char) : Prop :=
  text ≠ [] ∧ ∀ character ∈ text, isIdentifierChar character = true

/-- A run of characters that define a delimiter, and not an empty one. -/
def IsDefinition (text : List Char) : Prop :=
  text ≠ [] ∧ ∀ character ∈ text, isDefinitionChar character = true

/-- A name that can be written in a tag: the name of the innermost value itself, or segments
that are identifiers. -/
def Name.IsWritable (name : Name) : Prop := ∀ segment ∈ name.segments, IsIdentifier segment.toList

instance (text : List Char) : Decidable (Blanks text) :=
  decidable_of_iff (text.all Text.isBlank = true) List.all_eq_true

instance (text : List Char) : Decidable (IsIdentifier text) :=
  decidable_of_iff (text ≠ [] ∧ text.all isIdentifierChar = true)
    (and_congr_right fun _ => List.all_eq_true)

instance (text : List Char) : Decidable (IsDefinition text) :=
  decidable_of_iff (text ≠ [] ∧ text.all isDefinitionChar = true)
    (and_congr_right fun _ => List.all_eq_true)

instance (name : Name) : Decidable name.IsWritable :=
  inferInstanceAs (Decidable (∀ segment ∈ name.segments, IsIdentifier segment.toList))

/-- A text and how it is spelled behind an opening quote, up to the closing quote. A backslash
makes the character behind it stand for itself; without one, a quote ends the text. -/
inductive Quotation : List Char → List Char → Prop where
  | closed : Quotation [] ['"']
  | plain {character : Char} {content spelling : List Char} (notQuote : character ≠ '"')
      (notBackslash : character ≠ '\\') (rest : Quotation content spelling) :
      Quotation (character :: content) (character :: spelling)
  | escaped (character : Char) {content spelling : List Char}
      (rest : Quotation content spelling) :
      Quotation (character :: content) ('\\' :: character :: spelling)

/-! ### Tags -/

/-- How a tag opens: the opening delimiter, the mark of the tag if it has one, and blanks. -/
inductive TagOpening (delimiters : Delimiters) : Option Char → List Char → Prop where
  | plain {blanks : List Char} (blank : Blanks blanks) :
      TagOpening delimiters none (delimiters.opening ++ blanks)
  | marked (mark : Char) {before after : List Char} (blankBefore : Blanks before)
      (blankAfter : Blanks after) :
      TagOpening delimiters (some mark) (delimiters.opening ++ (before ++ mark :: after))

/-- How the format of an insert is spelled behind its name: not at all, or as a colon and a
text in quotes, with blanks behind both. -/
inductive FormatSpelling : Option String → List Char → Prop where
  | absent : FormatSpelling none []
  | given {format : String} {quotation before after : List Char} (blankBefore : Blanks before)
      (quoted : Quotation format.toList quotation) (blankAfter : Blanks after) :
      FormatSpelling (some format) (':' :: (before ++ '"' :: (quotation ++ after)))

/-- How a tag is spelled: its opening, its name, blanks, its format, and the closing
delimiter. -/
inductive TagSpelling (delimiters : Delimiters) (mark : Option Char) (name : Name)
    (format : Option String) : List Char → Prop where
  | parts {opening blanks formatted : List Char} (opens : TagOpening delimiters mark opening)
      (writable : name.IsWritable) (blank : Blanks blanks)
      (spelled : FormatSpelling format formatted) :
      TagSpelling delimiters mark name format
        (opening ++ (name.toString.toList ++ (blanks ++ (formatted ++ delimiters.closing))))

/-! ### Instructions -/

/-- How an instruction that sets the format of a type begins: the name of the type and a colon,
with blanks behind both. -/
inductive DirectiveHead (typeName : String) : List Char → Prop where
  | parts {second third : List Char} (identifier : IsIdentifier typeName.toList)
      (blankSecond : Blanks second) (blankThird : Blanks third) :
      DirectiveHead typeName (typeName.toList ++ (second ++ ':' :: third))

/-- A text begins like an instruction that sets the format of a type, up to the quote. -/
def BeginsDirective (text : List Char) : Prop :=
  ∃ typeName head rest, DirectiveHead typeName head ∧ text = head ++ '"' :: rest

/-! ### Items -/

/-- The mark of a tag that opens a section. -/
def sectionMark (inverted : Bool) : Char := if inverted then '^' else '#'

namespace Item

/-- How an item is spelled with the delimiters in force. -/
inductive Spelled (delimiters : Delimiters) : Item → List Char → Prop where
  | text {content : String} (present : content.toList ≠ []) :
      Spelled delimiters (text content) content.toList
  | insert {name : Name} {format : Option String} {word : List Char}
      (tag : TagSpelling delimiters none name format word) :
      Spelled delimiters (insert name format) word
  | opened {name : Name} {inverted : Bool} {word : List Char}
      (tag : TagSpelling delimiters (some (sectionMark inverted)) name none word) :
      Spelled delimiters (opened name inverted) word
  | closed {name : Name} {word : List Char}
      (tag : TagSpelling delimiters (some '/') name none word) :
      Spelled delimiters (closed name) word
  | setFormat {typeName format : String} {first head quotation last : List Char}
      (blankFirst : Blanks first) (begins : DirectiveHead typeName head)
      (quoted : Quotation format.toList quotation) (blankLast : Blanks last) :
      Spelled delimiters (setFormat typeName format)
        (delimiters.instructionOpening ++ (first ++ (head ++ '"' ::
          (quotation ++ (last ++ delimiters.instructionClosing)))))
  | redelimited {chosen : Delimiters} {first second last : List Char}
      (blankFirst : Blanks first) (definesOpening : IsDefinition chosen.opening)
      (blankSecond : Blanks second) (apart : second ≠ [])
      (definesClosing : IsDefinition chosen.closing) (blankLast : Blanks last) :
      Spelled delimiters (redelimited chosen)
        (delimiters.instructionOpening ++ (first ++ (chosen.opening ++ (second ++
          (chosen.closing ++ (last ++ delimiters.instructionClosing))))))

/-- The item is a run of literal text. -/
def isText : Item → Bool
  | text _ => true
  | _ => false

/-- The item chooses delimiters, and is no part of a tree. -/
def isRedelimited : Item → Bool
  | redelimited _ => true
  | _ => false

end Item

/-- No opening delimiter begins in a text, also none that goes on into the rest behind it. -/
def Delimiters.Clear (delimiters : Delimiters) (word rest : List Char) : Prop :=
  ∀ before after, word ++ rest = before ++ (delimiters.opening ++ after) →
    word.length ≤ before.length

/-- A text is a sequence of items, of which the first is read with the given delimiters. Each
item is spelled with the delimiters in force where it stands; a run of literal text ends at the
first opening delimiter or at the end of the text. -/
inductive Itemization : Delimiters → List Item → List Char → Prop where
  | nil {delimiters : Delimiters} : Itemization delimiters [] []
  | cons {delimiters : Delimiters} {item : Item} {items : List Item} {word rest : List Char}
      (spelled : item.Spelled delimiters word)
      (bounded : item.isText = true →
        delimiters.Clear word rest ∧ (rest = [] ∨ delimiters.opening <+: rest))
      (more : Itemization (item.delimitersAfter delimiters) items rest) :
      Itemization delimiters (item :: items) (word ++ rest)

/-- The opening and closing tags of a list of items match, each closing tag the innermost open
section by its name, where sections of the given names are open before it. -/
def Nested : List Name → List Item → Prop
  | [], [] => True
  | _ :: _, [] => False
  | around, .opened name _ :: rest => Nested (name :: around) rest
  | [], .closed _ :: _ => False
  | innermost :: around, .closed name :: rest => name = innermost ∧ Nested around rest
  | around, _ :: rest => Nested around rest

/-! ### Trees -/

namespace Token

mutual

/-- The items of a tree in the order in which they stand in a template. -/
def listing : Token → List Item
  | text content => [.text content]
  | insert name format => [.insert name format]
  | block name inverted children =>
    .opened name inverted :: (listingAll children ++ [.closed name])
  | setFormat typeName format => [.setFormat typeName format]

/-- The items of a list of trees. -/
def listingAll : List Token → List Item
  | [] => []
  | token :: rest => listing token ++ listingAll rest

end

end Token

end Stencil
