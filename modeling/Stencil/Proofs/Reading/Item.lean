/-
This file proves how the next item of a text is read.

Behind an opening delimiter the first character that is no blank tells the tags apart: the
marks of sections are no characters of a name, and none of them is the equals sign of an
instruction. In front of no opening delimiter there is literal text, which goes on to the first
one. So at most one production is not absent, and its rule is what is said of the text.
-/

import Mathlib.Data.List.Infix
import Stencil.Proofs.Reading.Instruction

namespace Stencil

/-! ### Marks -/

namespace Delimiters

variable {delimiters : Delimiters}

/-- The first character behind an opening delimiter that is no blank. -/
def mark? (delimiters : Delimiters) (text : List Char) : Option Char :=
  (delimiters.opening.isPrefixOf? text).bind fun behind => (behind.dropWhile Text.isBlank).head?

theorem mark?_eq {blanks rest : List Char} (blank : Blanks blanks)
    (stops : Stops Text.isBlank rest) :
    delimiters.mark? (delimiters.opening ++ (blanks ++ rest)) = rest.head? := by
  rw [mark?, List.isPrefixOf?_eq_some_iff_append_eq.mpr rfl, Option.bind_some,
    List.dropWhile_append_of_pos blank]
  cases rest with
  | nil => rfl
  | cons first rest => rw [List.dropWhile_cons_of_neg (by simpa using stops)]

theorem mark?_of_marked {mark : Char} {opening rest : List Char}
    (opens : TagOpening delimiters (some mark) opening) (solid : Text.isBlank mark = false) :
    delimiters.mark? (opening ++ rest) = some mark := by
  cases opens with
  | marked mark blankBefore blankAfter =>
    simp only [List.append_assoc, List.cons_append]
    rw [mark?_eq blankBefore (by simpa using solid)]
    rfl

theorem mark?_of_plain {opening rest : List Char} (opens : TagOpening delimiters none opening)
    (stops : Stops Text.isBlank rest) : delimiters.mark? (opening ++ rest) = rest.head? := by
  cases opens with
  | plain blank => rw [List.append_assoc, mark?_eq blank stops]

theorem mark?_of_instructionOpening {text : List Char}
    (opened : delimiters.instructionOpening <+: text) : delimiters.mark? text = some '=' := by
  obtain ⟨rest, rfl⟩ := opened
  rw [instructionOpening, List.append_assoc]
  exact mark?_eq blanks_nil (by simp [show Text.isBlank '=' = false by decide])

theorem not_instructionOpening_of_mark? {mark : Char} {text : List Char}
    (marked : delimiters.mark? text = some mark) (other : mark ≠ '=') :
    ¬ delimiters.instructionOpening <+: text := by
  intro opened
  rw [mark?_of_instructionOpening opened] at marked
  exact other (Option.some.inj marked).symm

theorem opening_prefix_of_mark? {mark : Char} {text : List Char}
    (marked : delimiters.mark? text = some mark) : delimiters.opening <+: text := by
  obtain ⟨rest, found, -⟩ := Option.bind_eq_some_iff.mp marked
  exact ⟨rest, List.isPrefixOf?_eq_some_iff_append_eq.mp found⟩

theorem opening_prefix_of_instructionOpening {text : List Char}
    (opened : delimiters.instructionOpening <+: text) : delimiters.opening <+: text :=
  (List.prefix_append _ _).trans opened

/-- Behind the opening delimiter stands neither the equals sign of an instruction nor the mark
of a section, where the mark of a closing tag counts inside a section only. -/
structure Unmarked (delimiters : Delimiters) (inside : Bool) (text : List Char) : Prop where
  noInstruction : ¬ delimiters.instructionOpening <+: text
  noOpening : ∀ inverted, delimiters.mark? text ≠ some (sectionMark inverted)
  noClosing : inside = true → delimiters.mark? text ≠ some '/'

end Delimiters

theorem sectionMark_solid (inverted : Bool) : Text.isBlank (sectionMark inverted) = false := by
  cases inverted <;> decide

/-- The marks of tags are no characters of a name, and none of them is an equals sign. -/
theorem ne_of_isNameChar {character : Char} (inName : isNameChar character = true) :
    character ≠ '=' ∧ (∀ inverted, character ≠ sectionMark inverted) ∧ character ≠ '/' := by
  refine ⟨?_, fun inverted => ?_, ?_⟩
  · rintro rfl
    exact absurd inName (by decide)
  · rintro rfl
    cases inverted <;> exact absurd inName (by decide)
  · rintro rfl
    exact absurd inName (by decide)

namespace Cursor

variable {cursor : Cursor} {delimiters : Delimiters}

/-- Behind its opening a tag is read or at fault. -/
theorem tag?_eq_none_iff {mark : Option Char} {takesFormat : Bool} :
    cursor.tag? delimiters mark takesFormat = .ok none ↔
      cursor.tagOpening? delimiters mark = none := by
  constructor
  · intro absent
    rcases opened : cursor.tagOpening? delimiters mark with - | behind
    · rfl
    · rw [tag?, opened] at absent
      simp only [close] at absent
      split at absent
      · cases absent
      · cases absent
      · split at absent
        · split at absent
          · cases absent
          · split at absent <;> cases absent
        · split at absent <;> cases absent
  · intro refused
    rw [tag?, refused]

theorem tag?_marked_eq_none_iff {mark : Char} {takesFormat : Bool}
    (solid : Text.isBlank mark = false) :
    cursor.tag? delimiters (some mark) takesFormat = .ok none ↔
      delimiters.mark? cursor.ahead ≠ some mark := by
  rw [tag?_eq_none_iff]
  constructor
  · intro refused marked
    obtain ⟨text, ahead⟩ := Delimiters.opening_prefix_of_mark? marked
    obtain ⟨blanks, rest, rfl, blank, stops⟩ := exists_blanks text
    rw [← ahead, Delimiters.mark?_eq blank stops] at marked
    obtain ⟨after, rfl⟩ : ∃ after, rest = mark :: after := List.head?_eq_some_iff.mp marked
    obtain ⟨between, final, rfl, blankAfter, stopsAfter⟩ := exists_blanks after
    rw [tagOpening?_eq (by simp [← ahead]) (.marked mark blank blankAfter)
      (by rintro _ ⟨⟩; exact solid) stopsAfter] at refused
    cases refused
  · intro unmarked
    cases opened : cursor.tagOpening? delimiters (some mark) with
    | none => rfl
    | some next =>
      obtain ⟨opening, rest, ahead, -, opens, -⟩ := exists_of_tagOpening? opened
      exact absurd (ahead ▸ Delimiters.mark?_of_marked opens solid) unmarked

theorem tag?_plain_eq_none_iff {takesFormat : Bool} :
    cursor.tag? delimiters none takesFormat = .ok none ↔
      ¬ delimiters.opening <+: cursor.ahead := by
  rw [tag?_eq_none_iff, ← accept?_eq_none_iff, tagOpening?]
  cases cursor.accept? delimiters.opening <;> simp

end Cursor

/-! ### Literal text -/

namespace Delimiters

variable {delimiters : Delimiters}

theorem clear_cons_iff {character : Char} {word rest : List Char} :
    delimiters.Clear (character :: word) rest ↔
      ¬ delimiters.opening <+: character :: (word ++ rest) ∧ delimiters.Clear word rest := by
  constructor
  · intro clear
    refine ⟨?_, fun before after split => ?_⟩
    · rintro ⟨after, begins⟩
      exact absurd (clear [] after begins.symm) (by simp)
    · exact Nat.le_of_succ_le_succ
        (clear (character :: before) after (congrArg (character :: ·) split))
  · rintro ⟨absent, clear⟩ before after split
    cases before with
    | nil => exact absurd ⟨after, split.symm⟩ absent
    | cons first before =>
      exact Nat.succ_le_succ (clear before after (List.cons.inj split).2)

instance decidableClear (delimiters : Delimiters) :
    (word rest : List Char) → Decidable (delimiters.Clear word rest)
  | [], _ => isTrue fun _ _ _ => Nat.zero_le _
  | _ :: word, rest =>
    have := decidableClear delimiters word rest
    decidable_of_iff _ clear_cons_iff.symm

/-- The text before the first opening delimiter is the clear text that goes on to an opening
delimiter or to the end. -/
theorem textBefore_eq_iff {text word : List Char} :
    textBefore delimiters.opening text = word ↔
      ∃ rest, text = word ++ rest ∧ delimiters.Clear word rest ∧
        (rest = [] ∨ delimiters.opening <+: rest) := by
  constructor
  · rintro rfl
    induction text with
    | nil => exact ⟨[], rfl, by simp [Clear, textBefore], .inl rfl⟩
    | cons character text inductionHypothesis =>
      unfold textBefore
      split
      · rename_i begins
        exact ⟨character :: text, rfl, by simp [Clear], .inr (List.isPrefixOf_iff_prefix.mp begins)⟩
      · rename_i absent
        obtain ⟨rest, split, clear, bounded⟩ := inductionHypothesis
        rw [List.isPrefixOf_iff_prefix] at absent
        refine ⟨rest, congrArg (character :: ·) split, clear_cons_iff.mpr ⟨?_, clear⟩, bounded⟩
        rwa [← split]
  · rintro ⟨rest, rfl, clear, bounded⟩
    induction word with
    | nil =>
      rcases bounded with rfl | begins
      · rfl
      · cases rest with
        | nil => rfl
        | cons first rest =>
          rw [List.nil_append, textBefore, if_pos (List.isPrefixOf_iff_prefix.mpr begins)]
    | cons character word inductionHypothesis =>
      obtain ⟨absent, clear⟩ := clear_cons_iff.mp clear
      rw [List.cons_append, textBefore, if_neg (by rwa [List.isPrefixOf_iff_prefix]),
        inductionHypothesis clear]

/-- A text that is clear in front of an opening delimiter is clear at the end. -/
theorem Clear.nil {word : List Char} (clear : delimiters.Clear word delimiters.opening) :
    delimiters.Clear word [] := by
  intro before after split
  rw [List.append_nil] at split
  exact clear before (after ++ delimiters.opening) (by simp [split])

/-- Of what is behind a literal text, only the opening delimiter has a say in whether the text
is clear. -/
theorem clear_append_iff {word rest : List Char} :
    delimiters.Clear word (delimiters.opening ++ rest) ↔
      delimiters.Clear word delimiters.opening := by
  induction word with
  | nil => simp [Clear]
  | cons character word inductionHypothesis =>
    have begins : delimiters.opening <+: character :: (word ++ (delimiters.opening ++ rest)) ↔
        delimiters.opening <+: character :: (word ++ delimiters.opening) := by
      rw [← List.append_assoc, ← List.cons_append]
      constructor
      · exact fun begins =>
          List.prefix_of_prefix_length_le begins (List.prefix_append _ _) (by simp; omega)
      · exact fun begins => begins.trans (List.prefix_append _ _)
    rw [clear_cons_iff, clear_cons_iff, begins, inductionHypothesis]

end Delimiters

/-! ### Items -/

/-- An item is read in front of a rest. -/
inductive ItemReads (delimiters : Delimiters) (inside : Bool) :
    Item → List Char → List Char → Prop where
  | text {content : String} {rest : List Char} (present : content.toList ≠ [])
      (clear : delimiters.Clear content.toList rest)
      (bounded : rest = [] ∨ delimiters.opening <+: rest) :
      ItemReads delimiters inside (.text content) content.toList rest
  | insert {name : Name} {format : Option String} {word rest : List Char}
      (reads : (tagRule delimiters none true).reads (name, format) word rest) :
      ItemReads delimiters inside (.insert name format) word rest
  | opened {name : Name} {inverted : Bool} {word rest : List Char}
      (reads : (tagRule delimiters (some (sectionMark inverted)) false).reads (name, none)
        word rest) :
      ItemReads delimiters inside (.opened name inverted) word rest
  | closed {name : Name} {word rest : List Char} (within : inside = true)
      (reads : (tagRule delimiters (some '/') false).reads (name, none) word rest) :
      ItemReads delimiters inside (.closed name) word rest
  | instruction {item : Item} {word rest : List Char}
      (reads : (instructionRule delimiters).reads item word rest) :
      ItemReads delimiters inside item word rest

/-- A text is at fault where an item should begin. What begins like no other tag or instruction
is taken for an insert. -/
inductive ItemFails (delimiters : Delimiters) (inside : Bool) (kind : ParseErrorKind)
    (details : List String) (word rest : List Char) : Prop where
  | insert (unmarked : delimiters.Unmarked inside (word ++ rest))
      (fails : (tagRule delimiters none true).fails kind details word rest)
  | opened (inverted : Bool)
      (fails : (tagRule delimiters (some (sectionMark inverted)) false).fails kind details
        word rest)
  | closed (within : inside = true)
      (fails : (tagRule delimiters (some '/') false).fails kind details word rest)
  | instruction (fails : (instructionRule delimiters).fails kind details word rest)

/-- The rule of an item, where a closing tag is looked for inside a section only. -/
def itemRule (delimiters : Delimiters) (inside : Bool) : Rule Item where
  reads := ItemReads delimiters inside
  fails := ItemFails delimiters inside

/-- A literal text that is read goes on to the first opening delimiter or to the end. -/
theorem ItemReads.bounded {delimiters : Delimiters} {inside : Bool} {item : Item}
    {word rest : List Char} (reads : ItemReads delimiters inside item word rest)
    (isText : item.isText = true) :
    delimiters.Clear word rest ∧ (rest = [] ∨ delimiters.opening <+: rest) := by
  cases reads with
  | text present clear bounded => exact ⟨clear, bounded⟩
  | insert => cases isText
  | opened => cases isText
  | closed => cases isText
  | instruction reads =>
    obtain ⟨body, rfl, reached⟩ := reads
    cases reached <;> cases isText

/-! ### What the text of an item begins with -/

section Beginnings

variable {delimiters : Delimiters} {mark : Option Char} {takesFormat : Bool}
  {kind : ParseErrorKind} {details : List String} {word rest : List Char}

theorem exists_opening_of_tagFails
    (fails : TagFails delimiters mark takesFormat kind details word rest) :
    ∃ opening text, word = opening ++ text ∧ TagOpening delimiters mark opening ∧
      Stops Text.isBlank (text ++ rest) := by
  cases fails with
  | name opens stops => exact ⟨_, _, rfl, opens, stops⟩
  | noName opens stops => exact ⟨_, [], (List.append_nil _).symm, opens, stops⟩
  | format _ opens writable =>
    refine ⟨_, _, rfl, opens, ?_⟩
    rw [List.append_assoc]
    exact Name.stops_isBlank writable _
  | closing reached =>
    cases reached with
    | parts opens writable =>
      refine ⟨_, _, rfl, opens, ?_⟩
      rw [List.append_assoc]
      exact Name.stops_isBlank writable _

theorem mark?_of_tagFails {mark : Char} (solid : Text.isBlank mark = false)
    (fails : TagFails delimiters (some mark) takesFormat kind details word rest) :
    delimiters.mark? (word ++ rest) = some mark := by
  obtain ⟨opening, text, rfl, opens, -⟩ := exists_opening_of_tagFails fails
  rw [List.append_assoc, Delimiters.mark?_of_marked opens solid]

theorem mark?_of_tagBody {mark : Char} {name : Name} {format : Option String}
    (solid : Text.isBlank mark = false)
    (reached : TagBody delimiters (some mark) takesFormat name format word rest)
    (behind : List Char) : delimiters.mark? (word ++ behind) = some mark := by
  cases reached with
  | parts opens => rw [List.append_assoc, Delimiters.mark?_of_marked opens solid]

/-- An insert has the first character of its name where other tags have their mark. -/
theorem unmarked_of_tagBody {name : Name} {format : Option String}
    (reached : TagBody delimiters none takesFormat name format word rest) (behind : List Char)
    (inside : Bool) : delimiters.Unmarked inside (word ++ behind) := by
  cases reached with
  | parts opens writable blank before ends =>
    rename_i opening blanks formatted
    obtain ⟨first, others, spelled, inName⟩ := Name.exists_toList_toString writable
    have marked : delimiters.mark? (opening ++ (name.toString.toList ++ (blanks ++ formatted)) ++
        behind) = some first := by
      rw [List.append_assoc, Delimiters.mark?_of_plain opens, spelled]
      · rfl
      · rw [List.append_assoc]
        exact Name.stops_isBlank writable _
    obtain ⟨notEquals, notSection, notClosing⟩ := ne_of_isNameChar inName
    refine ⟨Delimiters.not_instructionOpening_of_mark? marked notEquals, fun inverted => ?_,
      fun _ => ?_⟩
    · rw [marked]
      exact fun same => notSection inverted (Option.some.inj same)
    · rw [marked]
      exact fun same => notClosing (Option.some.inj same)

theorem opening_prefix_of_tagFails
    (fails : TagFails delimiters none takesFormat kind details word rest) :
    delimiters.opening <+: word ++ rest := by
  obtain ⟨opening, text, rfl, opens, -⟩ := exists_opening_of_tagFails fails
  cases opens
  simp only [List.append_assoc]
  exact List.prefix_append _ _

theorem instructionOpening_prefix_of_body {item : Item}
    (reached : InstructionBody delimiters item word rest) :
    delimiters.instructionOpening <+: word := by
  cases reached <;> exact List.prefix_append _ _

theorem instructionOpening_prefix_of_fails
    (fails : InstructionFails delimiters kind details word rest) :
    delimiters.instructionOpening <+: word := by
  cases fails with
  | format => exact List.prefix_append _ _
  | definition => exact List.prefix_append _ _
  | closing reached => exact instructionOpening_prefix_of_body reached

end Beginnings

/-! ### The next item -/

namespace Reading

variable {α β : Type} {first : Reading α}

theorem none_orElse (second : Unit → Reading α) :
    Reading.orElse (.ok none) second = second () := rfl

/-- Behind a production that is not absent, no other one is tried. -/
theorem orElse_of_ne_none {second : Unit → Reading α} (present : first ≠ .ok none) :
    first.orElse second = first := by
  rcases first with fault | (- | found)
  · rfl
  · exact absurd rfl present
  · rfl

theorem map_ne_none {change : α → β} (present : first ≠ .ok none) :
    first.map change ≠ .ok none := by
  rcases first with fault | (- | found)
  · nofun
  · exact absurd rfl present
  · nofun

end Reading

namespace Cursor

variable {cursor : Cursor} {delimiters : Delimiters} {inside : Bool}

theorem closing_eq_none_of_unmarked
    (unmarked : inside = true → delimiters.mark? cursor.ahead ≠ some '/') :
    (if inside then cursor.closingTag? delimiters else .ok none) = .ok none := by
  split
  · rename_i within
    rw [closingTag?, (tag?_marked_eq_none_iff (by decide)).mpr (unmarked within)]
    rfl
  · rfl

/-- Where an instruction opens, it is the next item. -/
theorem item?_instruction (opened : delimiters.instructionOpening <+: cursor.ahead) :
    cursor.item? delimiters inside = cursor.instruction? delimiters := by
  have marked := Delimiters.mark?_of_instructionOpening opened
  have present : cursor.instruction? delimiters ≠ .ok none :=
    fun absent => instruction?_eq_none_iff.mp absent opened
  rw [item?, closing_eq_none_of_unmarked (by rw [marked]; simp), Reading.none_orElse]
  exact Reading.orElse_of_ne_none present

/-- Behind the mark of a section, a tag that opens one is the next item. -/
theorem item?_opened {inverted : Bool}
    (marked : delimiters.mark? cursor.ahead = some (sectionMark inverted)) :
    cursor.item? delimiters inside =
      (cursor.tag? delimiters (some (sectionMark inverted)) false).map
        fun (name, _) => .opened name inverted := by
  have notClosing : delimiters.mark? cursor.ahead ≠ some '/' := by
    rw [marked]
    cases inverted <;> decide
  have noInstruction : ¬ delimiters.instructionOpening <+: cursor.ahead :=
    Delimiters.not_instructionOpening_of_mark? marked (by cases inverted <;> decide)
  have present : cursor.tag? delimiters (some (sectionMark inverted)) false ≠ .ok none :=
    fun absent => (tag?_marked_eq_none_iff (sectionMark_solid inverted)).mp absent marked
  have opens : cursor.openingTag? delimiters =
      (cursor.tag? delimiters (some (sectionMark inverted)) false).map
        fun (name, _) => .opened name inverted := by
    cases inverted with
    | false => exact Reading.orElse_of_ne_none (Reading.map_ne_none present)
    | true =>
      rw [openingTag?, (tag?_marked_eq_none_iff (by decide)).mpr (by rw [marked]; decide)]
      rfl
  rw [item?, closing_eq_none_of_unmarked fun _ => notClosing,
    instruction?_eq_none_iff.mpr noInstruction, opens, Reading.none_orElse, Reading.none_orElse]
  exact Reading.orElse_of_ne_none (Reading.map_ne_none present)

/-- Inside a section, a closing tag is the next item behind its mark. -/
theorem item?_closed (within : inside = true)
    (marked : delimiters.mark? cursor.ahead = some '/') :
    cursor.item? delimiters inside =
      (cursor.tag? delimiters (some '/') false).map fun (name, _) => .closed name := by
  have present : cursor.tag? delimiters (some '/') false ≠ .ok none :=
    fun absent => (tag?_marked_eq_none_iff (by decide)).mp absent marked
  rw [item?, if_pos within, closingTag?]
  exact Reading.orElse_of_ne_none (Reading.map_ne_none present)

/-- Where no mark stands, an insert is the next item, or literal text. -/
theorem item?_unmarked (unmarked : delimiters.Unmarked inside cursor.ahead) :
    cursor.item? delimiters inside =
      (cursor.insertTag? delimiters).orElse fun _ => cursor.literalText? delimiters := by
  have noSection (inverted : Bool) :
      cursor.tag? delimiters (some (sectionMark inverted)) false = .ok none :=
    (tag?_marked_eq_none_iff (sectionMark_solid inverted)).mpr (unmarked.noOpening inverted)
  have noOpening : cursor.openingTag? delimiters = .ok none := by
    rw [openingTag?, show cursor.tag? delimiters (some '#') false = .ok none from noSection false,
      show cursor.tag? delimiters (some '^') false = .ok none from noSection true]
    rfl
  rw [item?, closing_eq_none_of_unmarked unmarked.noClosing,
    instruction?_eq_none_iff.mpr unmarked.noInstruction, noOpening]
  rfl

/-- Where an insert opens, it is the next item. -/
theorem item?_insert (unmarked : delimiters.Unmarked inside cursor.ahead)
    (opened : delimiters.opening <+: cursor.ahead) :
    cursor.item? delimiters inside =
      (cursor.tag? delimiters none true).map fun (name, format) => .insert name format := by
  have present : cursor.tag? delimiters none true ≠ .ok none :=
    fun absent => tag?_plain_eq_none_iff.mp absent opened
  rw [item?_unmarked unmarked]
  exact Reading.orElse_of_ne_none (Reading.map_ne_none present)

/-- Where no tag opens, literal text is the next item. -/
theorem item?_text (closed : ¬ delimiters.opening <+: cursor.ahead) :
    cursor.item? delimiters inside = cursor.literalText? delimiters := by
  have noMark (mark : Char) : delimiters.mark? cursor.ahead ≠ some mark :=
    fun marked => closed (Delimiters.opening_prefix_of_mark? marked)
  have unmarked : delimiters.Unmarked inside cursor.ahead :=
    ⟨fun opened => closed (Delimiters.opening_prefix_of_instructionOpening opened),
      fun inverted => noMark _, fun _ => noMark _⟩
  rw [item?_unmarked unmarked, insertTag?, tag?_plain_eq_none_iff.mpr closed]
  rfl

theorem literalText?_eq {content : String} {rest : List Char}
    (ahead : cursor.ahead = content.toList ++ rest) (present : content.toList ≠ [])
    (clear : delimiters.Clear content.toList rest)
    (bounded : rest = [] ∨ delimiters.opening <+: rest) :
    cursor.literalText? delimiters =
      .ok (some (.text content, cursor.past content.toList rest)) := by
  have found : textBefore delimiters.opening cursor.ahead = content.toList :=
    Delimiters.textBefore_eq_iff.mpr ⟨rest, ahead, clear, bounded⟩
  obtain ⟨first, more, spelled⟩ := List.exists_cons_of_ne_nil present
  rw [literalText?, found, spelled]
  simp only [← spelled, String.ofList_toList, ahead, List.drop_left]

end Cursor

/-- A tag that may not have a format has none. -/
theorem TagBody.format_eq_none {delimiters : Delimiters} {mark : Option Char} {name : Name}
    {format : Option String} {body rest : List Char}
    (reached : TagBody delimiters mark false name format body rest) : format = none := by
  cases reached with
  | parts opens writable blank before ends =>
    by_cases given : format = none
    · exact given
    · exact absurd (before.taken given) Bool.false_ne_true

namespace Cursor

variable {delimiters : Delimiters} {inside : Bool}

theorem solidMark_some {mark : Char} (solid : Text.isBlank mark = false) :
    SolidMark (some mark) := by
  rintro _ ⟨⟩
  exact solid

theorem solidMark_none : SolidMark none := nofun

/-- Where the text has not ended, an item is read or at fault. -/
theorem exists_item (cursor : Cursor) (delimiters : Delimiters) (inside : Bool)
    (present : cursor.ahead ≠ []) :
    (∃ item word rest, cursor.ahead = word ++ rest ∧
      ItemReads delimiters inside item word rest) ∨
    ∃ kind details word rest, cursor.ahead = word ++ rest ∧
      ItemFails delimiters inside kind details word rest := by
  by_cases opened : delimiters.opening <+: cursor.ahead
  · by_cases instruction : delimiters.instructionOpening <+: cursor.ahead
    · rcases instruction?_governed.exists_of_ne_none
          (fun absent => instruction?_eq_none_iff.mp absent instruction) with
        ⟨item, word, rest, ahead, reads⟩ | ⟨kind, details, word, rest, ahead, fails⟩
      · exact .inl ⟨item, word, rest, ahead, .instruction reads⟩
      · exact .inr ⟨kind, details, word, rest, ahead, .instruction fails⟩
    by_cases opensSection : ∃ inverted, delimiters.mark? cursor.ahead = some (sectionMark inverted)
    · obtain ⟨inverted, marked⟩ := opensSection
      have solid := sectionMark_solid inverted
      rcases (@tag?_governed delimiters _ false (solidMark_some solid)).exists_of_ne_none
          (fun absent => (tag?_marked_eq_none_iff solid).mp absent marked) with
        ⟨⟨name, format⟩, word, rest, ahead, reads⟩ | ⟨kind, details, word, rest, ahead, fails⟩
      · obtain rfl : format = none := reads.choose_spec.2.format_eq_none
        exact .inl ⟨.opened name inverted, word, rest, ahead, .opened reads⟩
      · exact .inr ⟨kind, details, word, rest, ahead, .opened inverted fails⟩
    by_cases closing : inside = true ∧ delimiters.mark? cursor.ahead = some '/'
    · obtain ⟨within, marked⟩ := closing
      have solid : Text.isBlank '/' = false := by decide
      rcases (@tag?_governed delimiters _ false (solidMark_some solid)).exists_of_ne_none
          (fun absent => (tag?_marked_eq_none_iff solid).mp absent marked) with
        ⟨⟨name, format⟩, word, rest, ahead, reads⟩ | ⟨kind, details, word, rest, ahead, fails⟩
      · obtain rfl : format = none := reads.choose_spec.2.format_eq_none
        exact .inl ⟨.closed name, word, rest, ahead, .closed within reads⟩
      · exact .inr ⟨kind, details, word, rest, ahead, .closed within fails⟩
    have unmarked : delimiters.Unmarked inside cursor.ahead :=
      ⟨instruction, fun inverted marked => opensSection ⟨inverted, marked⟩,
        fun within marked => closing ⟨within, marked⟩⟩
    rcases (@tag?_governed delimiters none true solidMark_none).exists_of_ne_none
        (fun absent => tag?_plain_eq_none_iff.mp absent opened) with
      ⟨⟨name, format⟩, word, rest, ahead, reads⟩ | ⟨kind, details, word, rest, ahead, fails⟩
    · exact .inl ⟨.insert name format, word, rest, ahead, .insert reads⟩
    · exact .inr ⟨kind, details, word, rest, ahead, .insert (ahead ▸ unmarked) fails⟩
  · obtain ⟨content, found⟩ :
        ∃ content : String, content.toList = textBefore delimiters.opening cursor.ahead :=
      ⟨String.ofList _, String.toList_ofList⟩
    obtain ⟨rest, ahead, clear, bounded⟩ := Delimiters.textBefore_eq_iff.mp found.symm
    refine .inl ⟨.text content, _, rest, ahead, .text ?_ clear bounded⟩
    intro empty
    rw [empty, List.nil_append] at ahead
    rcases bounded with rfl | begins
    · exact present ahead
    · exact opened (ahead ▸ begins)

theorem item?_end {cursor : Cursor} (ended : cursor.ahead = []) :
    cursor.item? delimiters inside = .ok none := by
  have closed : ¬ delimiters.opening <+: cursor.ahead := by
    rw [ended, List.prefix_nil]
    exact delimiters.opening_ne_nil
  rw [item?_text closed, literalText?, ended]
  rfl

theorem item?_governed : (itemRule delimiters inside).Governs (item? · delimiters inside) where
  read_of := by
    intro cursor item word rest ahead reads
    cases reads with
    | text present clear bounded =>
      have closed : ¬ delimiters.opening <+: cursor.ahead := by
        rintro ⟨after, begins⟩
        have within := clear [] after (by rw [← ahead, ← begins, List.nil_append])
        exact present (List.eq_nil_of_length_eq_zero (Nat.le_zero.mp within))
      rw [item?_text closed, literalText?_eq ahead present clear bounded]
    | insert reads =>
      have read := (tag?_governed solidMark_none).read_of ahead reads
      obtain ⟨body, rfl, reached⟩ := reads
      have unmarked : delimiters.Unmarked inside cursor.ahead := by
        rw [ahead, List.append_assoc]
        exact unmarked_of_tagBody reached _ inside
      have opened : delimiters.opening <+: cursor.ahead :=
        Classical.not_not.mp fun closed => by
          rw [tag?_plain_eq_none_iff.mpr closed] at read
          cases read
      rw [item?_insert unmarked opened, read]
      rfl
    | opened reads =>
      rename_i inverted
      have solid := sectionMark_solid inverted
      have read := (tag?_governed (solidMark_some solid)).read_of ahead reads
      obtain ⟨body, rfl, reached⟩ := reads
      have marked : delimiters.mark? cursor.ahead = some (sectionMark inverted) := by
        rw [ahead, List.append_assoc, mark?_of_tagBody solid reached]
      rw [item?_opened marked, read]
      rfl
    | closed within reads =>
      have solid : Text.isBlank '/' = false := by decide
      have read := (tag?_governed (solidMark_some solid)).read_of ahead reads
      obtain ⟨body, rfl, reached⟩ := reads
      have marked : delimiters.mark? cursor.ahead = some '/' := by
        rw [ahead, List.append_assoc, mark?_of_tagBody solid reached]
      rw [item?_closed within marked, read]
      rfl
    | instruction reads =>
      have read := instruction?_governed.read_of ahead reads
      obtain ⟨body, rfl, reached⟩ := reads
      have opened : delimiters.instructionOpening <+: cursor.ahead := by
        rw [ahead, List.append_assoc]
        exact (instructionOpening_prefix_of_body reached).trans (List.prefix_append _ _)
      rw [item?_instruction opened, read]
  fault_of := by
    intro cursor kind details word rest ahead fails
    cases fails with
    | insert unmarked fails =>
      have opened : delimiters.opening <+: cursor.ahead := ahead ▸ opening_prefix_of_tagFails fails
      rw [item?_insert (ahead ▸ unmarked) opened,
        (tag?_governed solidMark_none).fault_of ahead fails]
      rfl
    | opened inverted fails =>
      have solid := sectionMark_solid inverted
      rw [item?_opened (ahead ▸ mark?_of_tagFails solid fails),
        (tag?_governed (solidMark_some solid)).fault_of ahead fails]
      rfl
    | closed within fails =>
      have solid : Text.isBlank '/' = false := by decide
      rw [item?_closed within (ahead ▸ mark?_of_tagFails solid fails),
        (tag?_governed (solidMark_some solid)).fault_of ahead fails]
      rfl
    | instruction fails =>
      have opened : delimiters.instructionOpening <+: cursor.ahead := by
        rw [ahead]
        exact (instructionOpening_prefix_of_fails fails).trans (List.prefix_append _ _)
      rw [item?_instruction opened, instruction?_governed.fault_of ahead fails]
  covers := by
    intro cursor
    by_cases ended : cursor.ahead = []
    · exact .inl (item?_end ended)
    · exact .inr (exists_item cursor delimiters inside ended)

/-- An item is absent at the end of the text only. -/
theorem item?_eq_none_iff {cursor : Cursor} :
    cursor.item? delimiters inside = .ok none ↔ cursor.ahead = [] := by
  refine ⟨fun absent => ?_, item?_end⟩
  by_cases ended : cursor.ahead = []
  · exact ended
  · rcases exists_item cursor delimiters inside ended with
      ⟨item, word, rest, ahead, reads⟩ | ⟨kind, details, word, rest, ahead, fails⟩
    · rw [item?_governed.read_of ahead reads] at absent
      cases absent
    · rw [item?_governed.fault_of ahead fails] at absent
      cases absent

end Cursor

end Stencil
