/-
This file proves that a template that is written down compiles to the trees it was written from.

Trees can be written with given delimiters when their names can be, when their literal texts
are clear of the opening delimiter, and when no two literal texts stand side by side. The
listing of such trees is spelled item by item, with any blanks where the grammar allows them; to
print it is to spell it without blanks. Each item is read back at its own place, because the closing
delimiter goes on with no part of a tag, and the items are put together to the trees again. A
literal text at the very end need not be clear of the beginning of an opening delimiter.
-/

import Stencil.Proofs.Nesting
import Stencil.Proofs.Reading.Sequence

namespace Stencil

/-! ### Trees that can be written -/

/-- The token is literal text. -/
def Token.isText : Token → Bool
  | text _ => true
  | _ => false

mutual

/-- A tree can be written with the given delimiters. -/
def Token.Printable (delimiters : Delimiters) : Token → Prop
  | text content => content.toList ≠ [] ∧ delimiters.Clear content.toList delimiters.opening
  | insert name _ => name.IsWritable
  | block name _ children => name.IsWritable ∧ Token.AllPrintable delimiters children
  | setFormat typeName _ => IsIdentifier typeName.toList

/-- The trees of a list can be written one behind the other: no two literal texts are
neighbours. -/
def Token.AllPrintable (delimiters : Delimiters) : List Token → Prop
  | [] => True
  | token :: rest =>
    token.Printable delimiters ∧
      (token.isText = true → ∀ next ∈ rest.head?, next.isText = false) ∧
      Token.AllPrintable delimiters rest

end

/-- A tree can be written in front of a text: where it is literal text, it is clear there. -/
def Token.PrintableBefore (delimiters : Delimiters) (rest : List Char) : Token → Prop
  | text content => content.toList ≠ [] ∧ delimiters.Clear content.toList rest
  | token => token.Printable delimiters

/-- What ends a literal text in front of the things behind it: the opening delimiter of the next
one, or nothing at the end. -/
def Delimiters.bound {α : Type} (delimiters : Delimiters) : List α → List Char
  | [] => []
  | _ :: _ => delimiters.opening

/-- The closing delimiter begins with a character that goes on with no part of a tag: it is no
blank, belongs to no name and is no colon. -/
def Delimiters.ClosesApart (delimiters : Delimiters) : Prop :=
  ∀ first ∈ delimiters.closing.head?,
    Text.isBlank first = false ∧ isIdentifierChar first = false ∧ first ≠ '.' ∧ first ≠ ':'

mutual

def Token.decidablePrintable (delimiters : Delimiters) :
    (token : Token) → Decidable (token.Printable delimiters)
  | text content => inferInstanceAs
      (Decidable (content.toList ≠ [] ∧ delimiters.Clear content.toList delimiters.opening))
  | insert name _ => inferInstanceAs (Decidable name.IsWritable)
  | block name _ children =>
    have := Token.decidableAllPrintable delimiters children
    inferInstanceAs (Decidable (name.IsWritable ∧ Token.AllPrintable delimiters children))
  | setFormat typeName _ => inferInstanceAs (Decidable (IsIdentifier typeName.toList))

def Token.decidableAllPrintable (delimiters : Delimiters) :
    (tokens : List Token) → Decidable (Token.AllPrintable delimiters tokens)
  | [] => isTrue trivial
  | token :: rest =>
    have := Token.decidablePrintable delimiters token
    have := Token.decidableAllPrintable delimiters rest
    inferInstanceAs (Decidable (token.Printable delimiters ∧
      (token.isText = true → ∀ next ∈ rest.head?, next.isText = false) ∧
      Token.AllPrintable delimiters rest))

end

instance (delimiters : Delimiters) (tokens : List Token) :
    Decidable (Token.AllPrintable delimiters tokens) :=
  Token.decidableAllPrintable delimiters tokens

/-- Items are spelled one behind the other, all with the same delimiters. -/
inductive Spelling (delimiters : Delimiters) : List Item → List Char → Prop where
  | nil : Spelling delimiters [] []
  | cons {item : Item} {items : List Item} {word text : List Char}
      (spelled : item.Spelled delimiters word) (more : Spelling delimiters items text) :
      Spelling delimiters (item :: items) (word ++ text)

/-! ### Items that can be written -/

namespace Item

/-- An item of a tree can be written in front of a text: where it is literal text, it is clear
there. -/
def PrintableBefore (delimiters : Delimiters) (rest : List Char) : Item → Prop
  | text content => content.toList ≠ [] ∧ delimiters.Clear content.toList rest
  | insert name _ | opened name _ | closed name => name.IsWritable
  | setFormat typeName _ => IsIdentifier typeName.toList
  | redelimited _ => False

/-- Items can be written one behind the other up to the end of a text. -/
def AllCanonical (delimiters : Delimiters) : List Item → Prop
  | [] => True
  | item :: rest =>
    item.PrintableBefore delimiters (delimiters.bound rest) ∧
      (item.isText = true → ∀ next ∈ rest.head?, next.isText = false) ∧
      AllCanonical delimiters rest

end Item

namespace Token

variable {delimiters : Delimiters}

theorem Printable.before {token : Token} (printable : token.Printable delimiters) {α : Type}
    (behind : List α) : token.PrintableBefore delimiters (delimiters.bound behind) := by
  cases token with
  | text content =>
    cases behind with
    | nil => exact ⟨printable.1, printable.2.nil⟩
    | cons => exact printable
  | _ => exact printable

/-- The listing of a tree begins with literal text where the tree is literal text. -/
theorem isText_head?_listing {token : Token} {rest : List Item} {item : Item}
    (first : item ∈ (token.listing ++ rest).head?) : item.isText = token.isText := by
  cases token <;> obtain ⟨⟩ := first <;> rfl

mutual

theorem canonical_listing {token : Token} {more : List Item}
    (printable : token.PrintableBefore delimiters (delimiters.bound more))
    (rest : Item.AllCanonical delimiters more)
    (apart : token.isText = true → ∀ next ∈ more.head?, next.isText = false) :
    Item.AllCanonical delimiters (token.listing ++ more) := by
  cases token with
  | text content => exact ⟨printable, apart, rest⟩
  | insert name format => exact ⟨printable, nofun, rest⟩
  | setFormat typeName format => exact ⟨printable, nofun, rest⟩
  | block name inverted children =>
    obtain ⟨writable, printable⟩ := printable
    have closing : Item.AllCanonical delimiters (.closed name :: more) := ⟨writable, nofun, rest⟩
    rw [listing, List.cons_append, List.append_assoc]
    refine ⟨writable, nofun, canonical_listingAll printable closing ?_⟩
    rintro _ ⟨⟩
    rfl

theorem canonical_listingAll {tokens : List Token} {more : List Item}
    (printable : AllPrintable delimiters tokens) (rest : Item.AllCanonical delimiters more)
    (apart : ∀ next ∈ more.head?, next.isText = false) :
    Item.AllCanonical delimiters (listingAll tokens ++ more) := by
  cases tokens with
  | nil => exact rest
  | cons token tokens =>
    obtain ⟨printableFirst, apartFirst, printable⟩ := printable
    rw [listingAll, List.append_assoc]
    refine canonical_listing (printableFirst.before _)
      (canonical_listingAll printable rest apart) ?_
    intro isText next first
    cases tokens with
    | nil => exact apart next first
    | cons other tokens =>
      rw [listingAll, List.append_assoc] at first
      rw [isText_head?_listing first]
      exact apartFirst isText other rfl

end

theorem AllPrintable.listing {tokens : List Token} (printable : AllPrintable delimiters tokens) :
    Item.AllCanonical delimiters (listingAll tokens) := by
  have all : Item.AllCanonical delimiters (listingAll tokens ++ []) :=
    canonical_listingAll printable trivial nofun
  rwa [List.append_nil] at all

end Token

/-! ### Printing -/

/-- A text as it is written between quotes: a backslash before every quote and every backslash. -/
def escaped (text : List Char) : List Char :=
  text.flatMap fun character =>
    if character = '"' ∨ character = '\\' then ['\\', character] else [character]

theorem quotation_escaped (text : List Char) : Quotation text (escaped text ++ ['"']) := by
  induction text with
  | nil => exact .closed
  | cons character rest inductionHypothesis =>
    rw [escaped, List.flatMap_cons, ← escaped, List.append_assoc]
    split
    · exact .escaped character inductionHypothesis
    · rename_i plain
      obtain ⟨notQuote, notBackslash⟩ := not_or.mp plain
      exact .plain notQuote notBackslash inductionHypothesis

/-- A text between quotes behind a colon. -/
def quotedFormat (format : String) : List Char :=
  ':' :: '"' :: (escaped format.toList ++ ['"'])

/-- A tag without blanks. -/
def Delimiters.tag (delimiters : Delimiters) (mark : Option Char) (name : Name)
    (format : Option String) : List Char :=
  delimiters.opening ++ (mark.toList ++ (name.toString.toList ++
    (((format.map quotedFormat).getD []) ++ delimiters.closing)))

/-- An item as it is printed: without blanks where it can do without them, and with a backslash only
in front of what would not stand for itself. -/
def Item.print (delimiters : Delimiters) : Item → List Char
  | text content => content.toList
  | insert name format => delimiters.tag none name format
  | opened name inverted => delimiters.tag (some (sectionMark inverted)) name none
  | closed name => delimiters.tag (some '/') name none
  | setFormat typeName format =>
    delimiters.instructionOpening ++
      (typeName.toList ++ (quotedFormat format ++ delimiters.instructionClosing))
  | redelimited chosen =>
    delimiters.instructionOpening ++
      (chosen.opening ++ ' ' :: (chosen.closing ++ delimiters.instructionClosing))

/-- Trees as they are printed with the given delimiters. -/
def Token.printAll (delimiters : Delimiters) (tokens : List Token) : List Char :=
  (listingAll tokens).flatMap (Item.print delimiters)

theorem tagOpening (delimiters : Delimiters) (mark : Option Char) :
    TagOpening delimiters mark (delimiters.opening ++ mark.toList) := by
  cases mark with
  | none => exact .plain blanks_nil
  | some mark => exact .marked mark blanks_nil blanks_nil

theorem tagSpelling_tag (delimiters : Delimiters) (mark : Option Char) {name : Name}
    (writable : name.IsWritable) (format : Option String) :
    TagSpelling delimiters mark name format (delimiters.tag mark name format) := by
  have formatted : FormatSpelling format ((format.map quotedFormat).getD []) := by
    cases format with
    | none => exact .absent
    | some format =>
      have given := FormatSpelling.given blanks_nil (quotation_escaped format.toList) blanks_nil
      rwa [List.append_nil] at given
  have parts := TagSpelling.parts (tagOpening delimiters mark) writable blanks_nil formatted
  rwa [List.nil_append, List.append_assoc] at parts

/-- An item of a tree that can be written is printed as one of its spellings. -/
theorem Item.spelled_print {delimiters : Delimiters} {item : Item} {rest : List Char}
    (printable : item.PrintableBefore delimiters rest) :
    item.Spelled delimiters (item.print delimiters) := by
  cases item with
  | text content => exact .text printable.1
  | insert name format => exact .insert (tagSpelling_tag delimiters none printable format)
  | opened name inverted => exact .opened (tagSpelling_tag delimiters _ printable none)
  | closed name => exact .closed (tagSpelling_tag delimiters _ printable none)
  | setFormat typeName format =>
    have spelled : (Item.setFormat typeName format).Spelled delimiters _ :=
      .setFormat blanks_nil (.parts printable blanks_nil blanks_nil)
        (quotation_escaped format.toList) blanks_nil
    simpa [print, quotedFormat] using spelled
  | redelimited chosen => exact printable.elim

theorem spelling_print {delimiters : Delimiters} {items : List Item}
    (canonical : Item.AllCanonical delimiters items) :
    Spelling delimiters items (items.flatMap (Item.print delimiters)) := by
  induction items with
  | nil => exact .nil
  | cons item items inductionHypothesis =>
    obtain ⟨first, -, more⟩ := canonical
    rw [List.flatMap_cons]
    exact .cons (Item.spelled_print first) (inductionHypothesis more)

/-- Items that can be written one behind the other have a spelling. -/
theorem exists_spelling {delimiters : Delimiters} {items : List Item}
    (canonical : Item.AllCanonical delimiters items) :
    ∃ text, Spelling delimiters items text :=
  ⟨_, spelling_print canonical⟩

/-! ### Reading a spelling back -/

section Reading

variable {delimiters : Delimiters}

namespace Delimiters.ClosesApart

theorem stops {accepts : Char → Bool} (apart : delimiters.ClosesApart)
    (refuses : ∀ first, Text.isBlank first = false → isIdentifierChar first = false →
      first ≠ '.' → first ≠ ':' → accepts first = false) (rest : List Char) :
    Stops accepts (delimiters.closing ++ rest) := by
  obtain ⟨first, others, spelled⟩ := List.exists_cons_of_ne_nil delimiters.closing_ne_nil
  rw [spelled, List.cons_append, Stops.cons_iff]
  obtain ⟨notBlank, notIdentifier, notDot, notColon⟩ := apart first (by rw [spelled]; rfl)
  exact refuses first notBlank notIdentifier notDot notColon

theorem stops_isBlank (apart : delimiters.ClosesApart) (rest : List Char) :
    Stops Text.isBlank (delimiters.closing ++ rest) :=
  apart.stops (fun _ notBlank _ _ _ => notBlank) rest

theorem stops_isNameChar (apart : delimiters.ClosesApart) (rest : List Char) :
    Stops isNameChar (delimiters.closing ++ rest) :=
  apart.stops (fun _ _ notIdentifier notDot _ => by simp [isNameChar, notIdentifier, notDot]) rest

theorem stops_colon (apart : delimiters.ClosesApart) (rest : List Char) :
    Stops (· == ':') (delimiters.closing ++ rest) :=
  apart.stops (fun _ _ _ _ notColon => by simpa using notColon) rest

end Delimiters.ClosesApart

/-- A tag that is spelled by its rule is read back, whatever stands behind it. -/
theorem TagSpelling.reads {mark : Option Char} {takesFormat : Bool} {name : Name}
    {format : Option String} {word : List Char}
    (spelling : TagSpelling delimiters mark name format word)
    (apart : delimiters.ClosesApart) (taken : format ≠ none → takesFormat = true)
    (rest : List Char) : (tagRule delimiters mark takesFormat).reads (name, format) word rest := by
  cases spelling with
  | parts opens writable blank spelled =>
    rename_i opening blanks formatted
    refine ⟨opening ++ (name.toString.toList ++ (blanks ++ formatted)), by simp, ?_⟩
    refine .parts opens writable blank ?_ (.inr (stops_isNameChar_blanks blank ?_))
    · exact ⟨spelled, taken, apart.stops_isBlank rest, fun _ _ => apart.stops_colon rest⟩
    · cases spelled with
      | absent => exact apart.stops_isNameChar rest
      | given => simp [show isNameChar ':' = false by decide]

/-- An item of a tree that is spelled by its rule is read back, where a literal text goes on to
the next opening delimiter and where a closing tag stands inside a section. -/
theorem Item.Spelled.reads {item : Item} {word rest : List Char}
    (spelled : item.Spelled delimiters word) (apart : delimiters.ClosesApart)
    (printable : item.PrintableBefore delimiters rest) {inside : Bool}
    (within : ∀ name, item = .closed name → inside = true)
    (bounded : item.isText = true → rest = [] ∨ delimiters.opening <+: rest) :
    ItemReads delimiters inside item word rest := by
  cases spelled with
  | text present => exact .text present printable.2 (bounded rfl)
  | insert tag => exact .insert (tag.reads apart (fun _ => rfl) rest)
  | opened tag => exact .opened (tag.reads apart (fun given => absurd rfl given) rest)
  | closed tag =>
    exact .closed (within _ rfl) (tag.reads apart (fun given => absurd rfl given) rest)
  | setFormat blankFirst begins quoted blankLast =>
    refine .instruction ⟨_, ?_, .setFormat blankFirst begins quoted blankLast ?_⟩
    · simp
    · simp [Delimiters.instructionClosing, show Text.isBlank '=' = false by decide]
  | redelimited => exact printable.elim

/-- Every item of a tree but a literal text begins with the opening delimiter. -/
theorem Item.Spelled.opening_prefix {item : Item} {word : List Char}
    (spelled : item.Spelled delimiters word) (notText : item.isText = false) :
    delimiters.opening <+: word := by
  have opens {mark : Option Char} {name : Name} {format : Option String} {word : List Char}
      (tag : TagSpelling delimiters mark name format word) : delimiters.opening <+: word := by
    cases tag with
    | parts opens =>
      cases opens <;> simp only [List.append_assoc] <;> exact List.prefix_append _ _
  cases spelled with
  | text => cases notText
  | insert tag => exact opens tag
  | opened tag => exact opens tag
  | closed tag => exact opens tag
  | setFormat => simp [Delimiters.instructionOpening]
  | redelimited => simp [Delimiters.instructionOpening]

/-- A spelling that does not begin with literal text is empty or begins with the opening
delimiter. -/
theorem Spelling.opening_prefix {items : List Item} {text : List Char}
    (spelling : Spelling delimiters items text)
    (notText : ∀ first ∈ items.head?, first.isText = false) :
    (items = [] ∧ text = []) ∨ delimiters.opening <+: text := by
  cases spelling with
  | nil => exact .inl ⟨rfl, rfl⟩
  | cons spelled more =>
    exact .inr ((spelled.opening_prefix (notText _ rfl)).trans (List.prefix_append _ _))

/-- Of a text that begins with its bound, no more than the bound has a say in what can be written in
front of it. -/
theorem Item.printableBefore_bound_iff {item : Item} {α : Type} {behind : List α}
    {rest : List Char} (ended : behind = [] → rest = [])
    (begins : item.isText = true → behind ≠ [] → delimiters.opening <+: rest) :
    item.PrintableBefore delimiters (delimiters.bound behind) ↔
      item.PrintableBefore delimiters rest := by
  cases item with
  | text content =>
    cases behind with
    | nil => rw [ended rfl, Delimiters.bound]
    | cons =>
      obtain ⟨rest, rfl⟩ := begins rfl (List.cons_ne_nil _ _)
      exact and_congr_right fun _ => Delimiters.clear_append_iff.symm
  | _ => exact Iff.rfl

/-- Behind an item whose tags match the open sections, the sections are as deep as the item
leaves them; and a closing tag stands inside a section. -/
theorem Nested.tail {around : List Name} {item : Item} {items : List Item}
    (nested : Nested around (item :: items)) :
    (∃ behind, Nested behind items ∧ behind.length = item.depthAfter around.length) ∧
      ∀ name, item = .closed name → decide (0 < around.length) = true := by
  cases item with
  | closed name =>
    cases around with
    | nil => exact nested.elim
    | cons innermost around => exact ⟨⟨around, nested.2, rfl⟩, fun _ _ => by simp⟩
  | opened name inverted => cases around <;> exact ⟨⟨_, nested, rfl⟩, nofun⟩
  | text content => cases around <;> exact ⟨⟨_, nested, rfl⟩, nofun⟩
  | insert name format => cases around <;> exact ⟨⟨_, nested, rfl⟩, nofun⟩
  | setFormat typeName format => cases around <;> exact ⟨⟨_, nested, rfl⟩, nofun⟩
  | redelimited chosen => cases around <;> exact ⟨⟨_, nested, rfl⟩, nofun⟩

/-- A spelling of items whose tags match is read back as these items. -/
theorem Spelling.exists_sequence {items : List Item} {text : List Char}
    (spelling : Spelling delimiters items text) (apart : delimiters.ClosesApart)
    (canonical : Item.AllCanonical delimiters items) {around : List Name}
    (nested : Nested around items) (position : Position) :
    ∃ placed : List PlacedItem, placed.map PlacedItem.item = items ∧
      SequenceReads [] position delimiters around.length placed text := by
  induction spelling generalizing around position with
  | nil => exact ⟨[], rfl, .nil⟩
  | cons spelled more inductionHypothesis =>
    rename_i item items word text
    obtain ⟨printableItem, apartItem, canonicalMore⟩ := canonical
    obtain ⟨⟨behind, nestedBehind, depth⟩, within⟩ := nested.tail
    have keeps : item.delimitersAfter delimiters = delimiters := by
      cases item <;> first | rfl | exact printableItem.elim
    have reads : ItemReads delimiters (decide (0 < around.length)) item word (text ++ []) := by
      have bounded (isText : item.isText = true) :
          (items = [] ∧ text = []) ∨ delimiters.opening <+: text :=
        more.opening_prefix (apartItem isText)
      have ended (none : items = []) : text = [] := by
        subst none
        cases more
        rfl
      rw [List.append_nil]
      refine spelled.reads apart ((Item.printableBefore_bound_iff ended ?_).mp printableItem) within
        fun isText => (bounded isText).imp_left And.right
      exact fun isText present => (bounded isText).resolve_left fun none => present none.1
    obtain ⟨placed, listed, sequence⟩ :=
      inductionHypothesis canonicalMore nestedBehind (position.after word)
    rw [depth] at sequence
    refine ⟨{ item, start := position, stop := position.after word } :: placed,
      congrArg (item :: ·) listed, .cons reads ?_⟩
    rwa [keeps]

end Reading

/-! ### The round trip -/

/-- A text that is read as the items of trees up to its end compiles to the trees. -/
theorem compile_of_sequence {delimiters : Delimiters} {tokens : List Token} {text : String}
    {placed : List PlacedItem}
    (sequence : SequenceReads [] .start delimiters 0 placed text.toList)
    (listed : placed.map PlacedItem.item = Token.listingAll tokens) :
    (compile delimiters text).outcome = .ok tokens := by
  have ahead : (Cursor.ofText text.toList).ahead = text.toList ++ [] := (List.append_nil _).symm
  have cut : (Cursor.ofText text.toList).itemize delimiters 0 =
      { items := placed, ending := .ok (Position.start.after text.toList) } := by
    rw [Cursor.itemize_sequence ahead sequence, Cursor.itemize_end rfl]
    simp [Itemized.behind, Cursor.ofText]
  rw [compile, cut, Assembly.outcome_takeAll_eq_ok_iff]
  exact ⟨_, Assembly.foldlM_take_listingAll tokens _ listed, ⟨_, rfl⟩, rfl, by simp⟩

/-- Whatever the spelling of the listing of trees, it compiles to the trees, if its items can be
written one behind the other. -/
theorem compile_canonical_spelling {delimiters : Delimiters} {tokens : List Token} {text : String}
    (apart : delimiters.ClosesApart)
    (canonical : Item.AllCanonical delimiters (Token.listingAll tokens))
    (spelling : Spelling delimiters (Token.listingAll tokens) text.toList) :
    (compile delimiters text).outcome = .ok tokens := by
  obtain ⟨placed, listed, sequence⟩ :
      ∃ placed : List PlacedItem, placed.map PlacedItem.item = Token.listingAll tokens ∧
        SequenceReads [] .start delimiters 0 placed text.toList :=
    spelling.exists_sequence apart canonical (Token.nested_listingAll tokens) .start
  exact compile_of_sequence sequence listed

/-- Whatever the spelling of trees that can be written, it compiles to the trees. -/
theorem compile_spelling {delimiters : Delimiters} {tokens : List Token} {text : String}
    (apart : delimiters.ClosesApart) (printable : Token.AllPrintable delimiters tokens)
    (spelling : Spelling delimiters (Token.listingAll tokens) text.toList) :
    (compile delimiters text).outcome = .ok tokens :=
  compile_canonical_spelling apart printable.listing spelling

/-- Trees that can be written have a spelling, and each of their spellings compiles to them. -/
theorem compile_inverts_spelling {delimiters : Delimiters} {tokens : List Token}
    (apart : delimiters.ClosesApart) (printable : Token.AllPrintable delimiters tokens) :
    (∃ text : String, Spelling delimiters (Token.listingAll tokens) text.toList) ∧
      ∀ text : String, Spelling delimiters (Token.listingAll tokens) text.toList →
        (compile delimiters text).outcome = .ok tokens := by
  constructor
  · obtain ⟨text, spelling⟩ := exists_spelling printable.listing
    exact ⟨String.ofList text, by rwa [String.toList_ofList]⟩
  · exact fun text => compile_spelling apart printable

theorem compile_inverts_spelling_nested :
    let tokens : List Token :=
      [.text "a\x7b ", .block { segments := ["b", "c-1"] } true
        [.insert .self (some "\x7d\x7d\"\\\n"), .setFormat "int" "d"], .text "\n"]
    (∃ text : String, Spelling .standard (Token.listingAll tokens) text.toList) ∧
      ∀ text : String, Spelling .standard (Token.listingAll tokens) text.toList →
        (compile .standard text).outcome = .ok tokens := by
  refine compile_inverts_spelling ?_ (by decide)
  rintro _ ⟨⟩
  decide

end Stencil
