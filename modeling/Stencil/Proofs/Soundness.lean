/-
This file proves that a template that compiles is spelled by the grammar.

Every item that is read is spelled by its rule, so the items of a text are an itemization of
it: nothing of the text is dropped, doubled or moved. The items are taken one after the other,
and an assembly lists those that it has taken, so where the compilation ends in trees the
listing of the trees is the items without the choices of delimiters.
-/

import Stencil.Proofs.Nesting
import Stencil.Proofs.Reading.Sequence

namespace Stencil

/-! ### Every item is spelled -/

theorem TagBody.spelling {delimiters : Delimiters} {mark : Option Char} {takesFormat : Bool}
    {name : Name} {format : Option String} {body rest : List Char}
    (reached : TagBody delimiters mark takesFormat name format body rest) :
    TagSpelling delimiters mark name format (body ++ delimiters.closing) := by
  cases reached with
  | parts opens writable blank before ends =>
    simp only [List.append_assoc]
    exact .parts opens writable blank before.spelled

theorem InstructionBody.spelled {delimiters : Delimiters} {item : Item} {body rest : List Char}
    (reached : InstructionBody delimiters item body rest) :
    item.Spelled delimiters (body ++ delimiters.instructionClosing) := by
  cases reached with
  | setFormat blankFirst begins quoted blankLast stops =>
    simp only [List.append_assoc, List.cons_append]
    exact .setFormat blankFirst begins quoted blankLast
  | redelimited blankFirst noDirective chooses =>
    cases chooses with
    | parts definesOpening blankSecond apart definesClosing blankLast ends stops =>
      simp only [List.append_assoc]
      exact .redelimited blankFirst definesOpening blankSecond apart definesClosing blankLast

/-- An item that is read is spelled by its rule. -/
theorem ItemReads.spelled {delimiters : Delimiters} {inside : Bool} {item : Item}
    {word rest : List Char} (reads : ItemReads delimiters inside item word rest) :
    item.Spelled delimiters word := by
  cases reads with
  | text present clear bounded => exact .text present
  | insert reads =>
    obtain ⟨body, rfl, reached⟩ := reads
    exact .insert reached.spelling
  | opened reads =>
    obtain ⟨body, rfl, reached⟩ := reads
    exact .opened reached.spelling
  | closed within reads =>
    obtain ⟨body, rfl, reached⟩ := reads
    exact .closed reached.spelling
  | instruction reads =>
    obtain ⟨body, rfl, reached⟩ := reads
    exact reached.spelled

/-- A sequence of items that is read up to the end of a text is an itemization of the text. -/
theorem SequenceReads.itemization {position : Position} {delimiters : Delimiters} {depth : Nat}
    {items : List PlacedItem} {text : List Char}
    (reads : SequenceReads [] position delimiters depth items text) :
    Itemization delimiters (items.map PlacedItem.item) text := by
  induction reads with
  | nil => exact .nil
  | cons reads more inductionHypothesis =>
    rw [List.append_nil] at reads
    exact .cons reads.spelled reads.bounded inductionHypothesis

/-! ### The trees of a text -/

/-- The items of a text that compiles are read up to its end, and without the choices of delimiters
they are the listing of the trees. -/
theorem reads_of_compile {delimiters : Delimiters} {text : String} {tokens : List Token}
    (compiled : (compile delimiters text).outcome = .ok tokens) :
    let items := ((Cursor.ofText text.toList).itemize delimiters 0).items
    SequenceReads [] .start delimiters 0 items text.toList ∧
      (items.map PlacedItem.item).filter (fun item => !item.isRedelimited) =
        Token.listingAll tokens := by
  obtain ⟨final, taken, ⟨position, ending⟩, closed, trees⟩ :=
    Assembly.outcome_takeAll_eq_ok_iff.mp compiled
  refine ⟨Cursor.sequenceReads_of_ending ending, ?_⟩
  have listed := Assembly.listed_foldlM taken
  rw [Assembly.listed, closed, trees] at listed
  exact listed.symm

/-- A text that compiles is a sequence of items, each spelled with the delimiters in force where
it stands, whose tags match and whose listing, without the choices of delimiters, is that of the
trees. -/
theorem exists_itemization_of_compile {delimiters : Delimiters} {text : String}
    {tokens : List Token} (compiled : (compile delimiters text).outcome = .ok tokens) :
    ∃ items, Itemization delimiters items text.toList ∧ Nested [] items ∧
      items.filter (fun item => !item.isRedelimited) = Token.listingAll tokens := by
  obtain ⟨final, taken, ⟨position, ending⟩, closed, trees⟩ :=
    Assembly.outcome_takeAll_eq_ok_iff.mp compiled
  have reads := Cursor.sequenceReads_of_ending ending
  refine ⟨_, reads.itemization, ?_, ?_⟩
  · have nested := Assembly.nested_foldlM taken []
    rw [List.append_nil] at nested
    exact nested.mpr (by rw [Assembly.openNames, closed]; trivial)
  · have listed := Assembly.listed_foldlM taken
    rw [Assembly.listed, closed, trees] at listed
    exact listed.symm

/-- The delimiters that are chosen inside a section hold behind it. -/
theorem exists_itemization_of_compile_redelimited :
    let text := "a\x7b\x7b#.\x7d\x7d\x7b\x7b=( )=\x7d\x7db( / . )\n(.)"
    ∃ items, Itemization .standard items text.toList ∧ Nested [] items ∧
      items.filter (fun item => !item.isRedelimited) =
        Token.listingAll [.text "a", .block .self false [.text "b"], .text "\n",
          .insert .self none] :=
  exists_itemization_of_compile (by with_unfolding_all rfl)

end Stencil
