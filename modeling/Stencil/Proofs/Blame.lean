/-
This file proves that a fault is reported where it is, and names what it is about.

Whatever the delimiters and however many lines a text has, the reported position is that of one
place only. In front of the item that is at fault the text is spelled by the grammar, which says
what the delimiters in force and the open sections are there; and what the fault claims holds of
what was read of the item and of what comes next. A fault that says that something is missing
stands where it is missing, a section that was never closed is the innermost one, and two names
that do not match are told apart also by their written forms.
-/

import Stencil.Proofs.Faults
import Stencil.Proofs.Offset
import Stencil.Proofs.Soundness

namespace Stencil

/-! ### What stands in front of an item -/

/-- A text is a sequence of items in front of a rest, of which the first is read with the given
delimiters. Each item is spelled with the delimiters in force where it stands; a run of literal
text ends at the first opening delimiter or where the rest ends. -/
inductive ItemizationBefore (rest : List Char) : Delimiters → List Item → List Char → Prop where
  | nil {delimiters : Delimiters} : ItemizationBefore rest delimiters [] []
  | cons {delimiters : Delimiters} {item : Item} {items : List Item} {word text : List Char}
      (spelled : item.Spelled delimiters word)
      (bounded : item.isText = true → delimiters.Clear word (text ++ rest) ∧
        (text ++ rest = [] ∨ delimiters.opening <+: text ++ rest))
      (more : ItemizationBefore rest (item.delimitersAfter delimiters) items text) :
      ItemizationBefore rest delimiters (item :: items) (word ++ text)

/-- The names of the sections that are open behind an item, the innermost one first. A closing
tag has to name the innermost one. -/
def Item.openAfter (around : List Name) : Item → Option (List Name)
  | opened name _ => some (name :: around)
  | closed name =>
    match around with
    | [] => none
    | innermost :: outer => if name = innermost then some outer else none
  | _ => some around

/-- A text in front of a rest is spelled by items, and they leave delimiters in force and sections
open. -/
structure Leaves (delimiters : Delimiters) (items : List Item) (text rest : List Char)
    (chosen : Delimiters) (around : List Name) : Prop where
  spelled : ItemizationBefore rest delimiters items text
  inForce : items.foldl Item.delimitersAfter delimiters = chosen
  innermostFirst : items.foldlM Item.openAfter [] = some around

/-- What a fault claims, with the delimiters in force and the open sections: of the word that was
read of the item at fault, and of the rest behind it. -/
def Blames (chosen : Delimiters) (around : List Name) (word rest : List Char) :
    ParseErrorKind → List String → Prop
  | .expectedName, [] => Stops Text.isBlank rest ∧ Stops isNameChar rest
  | .expectedIdentifier, [] => ['.'] <:+ word ∧ Stops isIdentifierChar rest
  | .expectedClosing, [closing] =>
    closing.toList ∈ [chosen.closing, chosen.instructionClosing, ['"']] ∧
      ¬ closing.toList <+: rest
  | .expectedFormatString, [] =>
    (∃ blanks, Blanks blanks ∧ ':' :: blanks <:+ word) ∧
      Stops Text.isBlank rest ∧ Stops (· == '"') rest
  | .missingOpeningDefinition, [] | .missingClosingDefinition, [] => Stops (· != '=') rest
  | .missingSectionEnd, [name] =>
    word = [] ∧ rest = [] ∧ ∃ innermost ∈ around.head?, name = innermost.toString
  | .mismatchedSectionEnd, [found, expected] =>
    word = [] ∧ (∃ innermost ∈ around.head?, expected = innermost.toString) ∧
      (∃ name tag, TagSpelling chosen (some '/') name none tag ∧ tag <+: rest ∧
        found = name.toString) ∧ found ≠ expected
  | _, _ => False

/-! ### What readers say of a place -/

section Readers

variable {chosen : Delimiters} {around : List Name}

theorem blames_quote {word : List Char} :
    Blames chosen around word [] .expectedClosing ["\""] :=
  ⟨by simp, by simp⟩

theorem blames_closing {closing word rest : List Char}
    (known : closing ∈ [chosen.closing, chosen.instructionClosing, ['"']])
    (missing : ¬ closing <+: rest) :
    Blames chosen around word rest .expectedClosing [String.ofList closing] := by
  rw [Blames, String.toList_ofList]
  exact ⟨known, missing⟩

theorem FormatFails.blames {kind : ParseErrorKind} {details : List String}
    {word text rest : List Char} (fails : FormatFails kind details word rest)
    (behind : word <:+ text) : Blames chosen around text rest kind details := by
  cases fails with
  | missing blank stops noQuote => exact ⟨⟨_, blank, behind⟩, stops, noQuote⟩
  | unclosed => exact blames_quote

theorem TagFails.blames {mark : Option Char} {takesFormat : Bool} {kind : ParseErrorKind}
    {details : List String} {word rest : List Char}
    (fails : TagFails chosen mark takesFormat kind details word rest) :
    Blames chosen around word rest kind details := by
  cases fails with
  | name opens stops fails =>
    obtain ⟨rfl, rfl, noIdentifier, name, -, -, rfl⟩ := fails
    refine ⟨?_, noIdentifier⟩
    rw [← List.append_assoc]
    exact List.suffix_append _ _
  | noName opens stops noName => exact ⟨stops, noName⟩
  | format takes opens writable blank fails =>
    refine fails.blames ?_
    simp only [← List.append_assoc]
    exact List.suffix_append _ _
  | closing reached missing => exact blames_closing (by simp) missing

theorem InstructionFails.blames {kind : ParseErrorKind} {details : List String}
    {word rest : List Char} (fails : InstructionFails chosen kind details word rest) :
    Blames chosen around word rest kind details := by
  cases fails with
  | format blankFirst fails =>
    obtain ⟨rfl, rfl, rfl, -⟩ := fails
    exact blames_quote
  | definition blankFirst stops noDirective fails =>
    cases fails with
    | opening noDefinition => exact stops_equals stops noDefinition
    | closing defines blank ends stopsRest noDefinition =>
      exact stops_equals stopsRest noDefinition
  | closing reached missing => exact blames_closing (by simp) missing

theorem ItemFails.blames {inside : Bool} {kind : ParseErrorKind} {details : List String}
    {word rest : List Char} (fails : ItemFails chosen inside kind details word rest) :
    Blames chosen around word rest kind details := by
  cases fails with
  | insert unmarked fails => exact fails.blames
  | opened inverted fails => exact fails.blames
  | closed within fails => exact fails.blames
  | instruction fails => exact fails.blames

/-- Two names that can be written have two written forms. -/
theorem Name.eq_of_toString_eq {first second : Name} (firstWritable : first.IsWritable)
    (secondWritable : second.IsWritable) (same : first.toString = second.toString) :
    first = second := by
  have read {name : Name} (writable : name.IsWritable) :
      (Cursor.ofText name.toString.toList).name? =
        .ok (some (name, (Cursor.ofText name.toString.toList).past name.toString.toList [])) :=
    Cursor.name?_governed.read_of (List.append_nil _).symm ⟨rfl, writable, .inr .nil⟩
  have readFirst := read firstWritable
  rw [same, read secondWritable] at readFirst
  simpa using readFirst.symm

theorem TagSpelling.writable {mark : Option Char} {name : Name} {format : Option String}
    {word : List Char} (tag : TagSpelling chosen mark name format word) : name.IsWritable := by
  cases tag with
  | parts opens writable blank spelled => exact writable

/-- A text that is at fault bears out what the fault claims. -/
theorem TextFails.blames {kind : ParseErrorKind} {details : List String} {word rest : List Char}
    (writable : ∀ name ∈ around, name.IsWritable)
    (fails : TextFails chosen around kind details word rest) :
    Blames chosen around word rest kind details := by
  cases fails with
  | item fails => exact fails.blames
  | unclosed => exact ⟨rfl, rfl, _, rfl, rfl⟩
  | mismatched reads other =>
    cases reads.spelled with
    | closed tag =>
      refine ⟨rfl, ⟨_, rfl, rfl⟩, ⟨_, _, tag, List.prefix_append _ _, rfl⟩, fun same => ?_⟩
      exact other (Name.eq_of_toString_eq tag.writable (writable _ List.mem_cons_self) same)

/-- A fault has as many details as its wording asks for. -/
theorem Blames.length_details {kind : ParseErrorKind} {details : List String}
    {word rest : List Char} (blames : Blames chosen around word rest kind details) :
    details.length = kind.detailCount := by
  unfold Blames at blames
  split at blames <;> first | rfl | exact blames.elim

end Readers

/-! ### What items leave -/

theorem SequenceReads.itemizationBefore {position : Position} {delimiters : Delimiters}
    {depth : Nat} {items : List PlacedItem} {text rest : List Char}
    (reads : SequenceReads rest position delimiters depth items text) :
    ItemizationBefore rest delimiters (items.map PlacedItem.item) text := by
  induction reads with
  | nil => exact .nil
  | cons reads more inductionHypothesis =>
    exact .cons reads.spelled reads.bounded inductionHypothesis

theorem openAfter_take {assembly next : Assembly} {placed : PlacedItem}
    (taken : assembly.take placed = .ok next) :
    placed.item.openAfter assembly.openNames = some next.openNames := by
  obtain ⟨item, start, stop⟩ := placed
  cases item with
  | closed name =>
    obtain ⟨innermost, around, opened, rfl, rfl⟩ := Assembly.exists_of_take_closed taken
    simp [Item.openAfter, Assembly.openNames, opened]
  | _ =>
    cases taken
    rfl

theorem openAfter_foldlM {assembly final : Assembly} {items : List PlacedItem}
    (taken : items.foldlM Assembly.take assembly = .ok final) :
    (items.map PlacedItem.item).foldlM Item.openAfter assembly.openNames =
      some final.openNames := by
  induction items generalizing assembly with
  | nil =>
    cases taken
    rfl
  | cons placed items inductionHypothesis =>
    obtain ⟨next, step, taken⟩ := Assembly.foldlM_take_cons_iff.mp taken
    rw [List.map_cons, List.foldlM_cons, openAfter_take step]
    exact inductionHypothesis taken

/-- Items that are read and taken leave the delimiters in force and the sections open that come
of taking them. -/
theorem leaves_of_reads {delimiters : Delimiters} {items : List PlacedItem} {final : Assembly}
    {position : Position} {depth : Nat} {text rest : List Char}
    (reads : SequenceReads rest position delimiters depth items text)
    (taken : items.foldlM Assembly.take { delimiters } = .ok final) :
    Leaves delimiters (items.map PlacedItem.item) text rest (delimitersBehind delimiters items)
      final.openNames :=
  ⟨reads.itemizationBefore, List.foldl_map, openAfter_foldlM taken⟩

/-- Items that are read at the start of a text are the first ones that the text is cut into. -/
theorem prefix_itemize_of_reads {delimiters : Delimiters} {items : List PlacedItem}
    {text before rest : List Char} (split : text = before ++ rest)
    (reads : SequenceReads rest .start delimiters 0 items before) :
    items <+: ((Cursor.ofText text).itemize delimiters 0).items := by
  have ahead : (Cursor.ofText text).ahead = before ++ rest := split
  rw [Cursor.itemize_sequence ahead reads]
  exact List.prefix_append _ _

/-- The sections that a spelled item leaves open have names that can be written. -/
theorem writable_openAfter {delimiters : Delimiters} {item : Item} {word : List Char}
    {around next : List Name} (spelled : item.Spelled delimiters word)
    (writable : ∀ name ∈ around, name.IsWritable) (left : item.openAfter around = some next) :
    ∀ name ∈ next, name.IsWritable := by
  cases spelled with
  | opened tag =>
    cases left
    exact List.forall_mem_cons.mpr ⟨tag.writable, writable⟩
  | closed tag =>
    cases around with
    | nil => cases left
    | cons innermost outer =>
      simp only [Item.openAfter] at left
      split at left
      · cases left
        exact (List.forall_mem_cons.mp writable).2
      · cases left
  | _ =>
    cases left
    exact writable

theorem ItemizationBefore.writable {delimiters : Delimiters} {items : List Item}
    {text rest : List Char} {around final : List Name}
    (itemization : ItemizationBefore rest delimiters items text)
    (writable : ∀ name ∈ around, name.IsWritable)
    (left : items.foldlM Item.openAfter around = some final) :
    ∀ name ∈ final, name.IsWritable := by
  induction itemization generalizing around with
  | nil =>
    cases left
    exact writable
  | cons spelled bounded more inductionHypothesis =>
    rw [List.foldlM_cons] at left
    obtain ⟨next, step, left⟩ := Option.bind_eq_some_iff.mp left
    exact inductionHypothesis (writable_openAfter spelled writable step) left

theorem Leaves.writable {delimiters chosen : Delimiters} {items : List Item}
    {text rest : List Char} {around : List Name}
    (leaves : Leaves delimiters items text rest chosen around) :
    ∀ name ∈ around, name.IsWritable :=
  leaves.spelled.writable (List.forall_mem_nil _) leaves.innermostFirst

/-! ### The place of a fault -/

/-- The fault of a text that does not compile is reported at the position of exactly one offset.
The text in front of the offset is spelled by the first items that the text is cut into and the
beginning of the one at fault, and what the fault claims is so. Its message is its wording, with a
detail for every one that the wording asks for, and its line and column. -/
theorem compile_fault_located {delimiters : Delimiters} {text : String} {fault : ParseError}
    (failed : (compile delimiters text).outcome = .error fault) :
    (∃ offset ≤ text.length,
      (∀ other ≤ text.length,
        Position.ofOffset text.toList other = fault.position ↔ other = offset) ∧
      ∃ items front word chosen around,
        items <+: ((Cursor.ofText text.toList).itemize delimiters 0).items ∧
        text.toList.take offset = front ++ word ∧
        Leaves delimiters (items.map PlacedItem.item) front (word ++ text.toList.drop offset)
          chosen around ∧
        Blames chosen around word (text.toList.drop offset) fault.kind fault.details) ∧
    fault.details.length = fault.kind.detailCount ∧
    fault.message = fault.kind.describe fault.details ++ " (" ++ toString fault.position.line ++
      ":" ++ toString fault.position.column ++ ")" := by
  obtain ⟨items, final, front, word, rest, split, reads, taken, fails, position⟩ :=
    compile_eq_error_iff.mp failed
  have cut := prefix_itemize_of_reads split reads
  have leaves := leaves_of_reads reads taken
  have blames := fails.blames leaves.writable
  rw [← List.append_assoc] at split
  refine ⟨⟨(front ++ word).length, ?_, fun other inside => ?_, ?_⟩, blames.length_details, ?_⟩
  · rw [← String.length_toList, split]
    exact (List.prefix_append _ _).length_le
  · rw [← String.length_toList, split] at inside
    rw [position, split]
    exact Position.ofOffset_eq_after_iff inside
  · have read : text.toList.take (front ++ word).length = front ++ word := by
      rw [split, List.take_left]
    have left : text.toList.drop (front ++ word).length = rest := by rw [split, List.drop_left]
    rw [left]
    exact ⟨items, front, word, _, _, cut, read, leaves, blames⟩
  · simp [ParseError.message, Position.toString, String.append_assoc]

/-- A section is closed under another name on the second line, behind a choice of delimiters. -/
theorem compile_fault_located_redelimited :
    let text := "\x7b\x7b#a\x7d\x7d\n\x7b\x7b=( )=\x7d\x7d(/ b)!"
    let fault : ParseError := {
      kind := .mismatchedSectionEnd
      position := { line := 2, column := 9 }
      details := ["b", "a"] }
    (compile .standard text).outcome = .error fault ∧
    (∃ offset ≤ text.length,
      (∀ other ≤ text.length,
        Position.ofOffset text.toList other = fault.position ↔ other = offset) ∧
      ∃ items front word chosen around,
        items <+: ((Cursor.ofText text.toList).itemize .standard 0).items ∧
        text.toList.take offset = front ++ word ∧
        Leaves .standard (items.map PlacedItem.item) front (word ++ text.toList.drop offset)
          chosen around ∧
        Blames chosen around word (text.toList.drop offset) fault.kind fault.details) ∧
    fault.details.length = fault.kind.detailCount ∧
    fault.message = fault.kind.describe fault.details ++ " (" ++ toString fault.position.line ++
      ":" ++ toString fault.position.column ++ ")" :=
  ⟨by with_unfolding_all rfl, compile_fault_located (by with_unfolding_all rfl)⟩

end Stencil
