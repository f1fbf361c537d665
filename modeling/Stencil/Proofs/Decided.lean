/-
This file proves that a fault is decided by the text that was read up to it.

A text may fail because it ends: in the middle of a tag, inside a section or behind an opening
quote. Every other fault is found in front of some characters of the text, or, where a section is
closed under another name, in front of a whole tag. Nothing that stands further behind has a say
in it. The items in front of the fault are read as before, since none of them ends with the text,
and the item at fault is at fault in the same way.
-/

import Stencil.Proofs.Faults
import Stencil.Proofs.Offset

namespace Stencil

/-- The number of characters of a text that have to stand behind the place of a fault, so that
the fault does not come from reaching the end. -/
def ParseErrorKind.lookahead (details : List String) : ParseErrorKind → Nat
  | mismatchedSectionEnd => 0
  | expectedClosing => (details.getD 0 "").length
  | _ => 1

/-! ### What is missing in front of enough characters -/

theorem not_prefix_append {literal rest : List Char} (missing : ¬ literal <+: rest)
    (seen : literal.length ≤ rest.length) (more : List Char) : ¬ literal <+: rest ++ more :=
  fun begins => missing (List.prefix_of_prefix_length_le begins (List.prefix_append _ _) seen)

theorem Stops.extend {accepts : Char → Bool} {word rest : List Char}
    (stops : Stops accepts (word ++ rest)) (present : rest ≠ []) (more : List Char) :
    Stops accepts (word ++ (rest ++ more)) := by
  rw [← List.append_assoc]
  exact stops.append more (.inl (List.append_ne_nil_of_right_ne_nil _ present))

/-! ### Words of instructions -/

/-- The number of characters of a text that are no blanks. -/
def solidCount (text : List Char) : Nat := text.countP (!Text.isBlank ·)

theorem solidCount_append (first second : List Char) :
    solidCount (first ++ second) = solidCount first + solidCount second := List.countP_append

theorem solidCount_blanks {blanks : List Char} (blank : Blanks blanks) : solidCount blanks = 0 :=
  List.countP_eq_zero.mpr fun character member => by simp [blank character member]

theorem solidCount_solid {text : List Char}
    (solid : ∀ character ∈ text, Text.isBlank character = false) :
    solidCount text = text.length :=
  List.countP_eq_length.mpr fun character member => by simp [solid character member]

theorem solidCount_definition {definition : List Char} (defines : IsDefinition definition) :
    solidCount definition = definition.length :=
  solidCount_solid fun character member => isBlank_of_isDefinitionChar (defines.2 character member)

theorem solidCount_pos {text : List Char} (present : text ≠ []) (stops : Stops Text.isBlank text) :
    0 < solidCount text := by
  obtain ⟨first, others, rfl⟩ := List.exists_cons_of_ne_nil present
  refine List.countP_pos_iff.mpr ⟨first, List.mem_cons_self, ?_⟩
  simpa using stops

/-- An instruction that sets a format has nothing but one identifier in front of its colon. -/
theorem DirectiveHead.solidCount_eq {typeName : String} {head : List Char}
    (begins : DirectiveHead typeName head) :
    solidCount head = typeName.toList.length + 1 := by
  cases begins with
  | parts identifier blankSecond blankThird =>
    have colon : solidCount [':'] = 1 := by decide
    rw [← List.singleton_append, solidCount_append, solidCount_append, solidCount_append, colon,
      solidCount_blanks blankSecond, solidCount_blanks blankThird, solidCount_solid
        fun character member => isBlank_of_isIdentifierChar (identifier.2 character member)]

/-- The words that choose delimiters are two, so with a character behind them they do not fit in
front of the quote of an instruction that sets a format. -/
theorem DelimiterWords.not_prefix_head {chosen : Delimiters} {words rest : List Char}
    {typeName : String} {head : List Char} (chooses : DelimiterWords chosen words rest)
    (present : rest ≠ []) (begins : DirectiveHead typeName head) : ¬ words ++ rest <+: head := by
  intro within
  have fewer : solidCount (words ++ rest) ≤ solidCount head := within.sublist.countP_le
  rw [begins.solidCount_eq] at fewer
  cases chooses with
  | parts definesOpening blankSecond apart definesClosing blankLast ends stops =>
    rename_i second last
    have behind := solidCount_pos present stops
    have closes := List.length_pos_iff.mpr chosen.closing_ne_nil
    simp only [solidCount_append, solidCount_definition definesOpening,
      solidCount_definition definesClosing] at fewer
    obtain ⟨blank, blanks, rfl⟩ := List.exists_cons_of_ne_nil apart
    -- The blank behind the opening definition would stand in the identifier.
    have opening : chosen.opening ++ [blank] <+: head := by
      refine List.IsPrefix.trans ?_ within
      simp
    cases begins with
    | parts identifier =>
      have inside : chosen.opening ++ [blank] <+: typeName.toList := by
        refine List.prefix_of_prefix_length_le opening (List.prefix_append _ _) ?_
        rw [List.length_append, List.length_singleton]
        omega
      have solid := isBlank_of_isIdentifierChar
        (identifier.2 blank (inside.subset (by simp)))
      rw [blankSecond blank List.mem_cons_self] at solid
      cases solid

/-- Words that choose delimiters do not become words that set a format by what stands behind the
character in front of which they end. -/
theorem DelimiterWords.not_beginsDirective_append {chosen : Delimiters}
    {words rest : List Char} (chooses : DelimiterWords chosen words rest) (present : rest ≠ [])
    (noDirective : ¬ BeginsDirective (words ++ rest)) (more : List Char) :
    ¬ BeginsDirective (words ++ (rest ++ more)) := by
  rintro ⟨typeName, head, behind, begins, split⟩
  have quoted : head ++ ['"'] <+: words ++ rest ++ more := ⟨behind, by simp [split]⟩
  have other (text : List Char) : words ++ rest ≠ head ++ ['"'] ++ text := fun same =>
    noDirective ⟨typeName, head, text, begins, by simp [same]⟩
  rcases List.prefix_or_prefix_of_prefix quoted (List.prefix_append _ _) with
    ⟨text, same⟩ | shorter
  · exact other text same.symm
  rcases List.prefix_concat_iff.mp shorter with same | within
  · exact other [] (by simp [same])
  · exact chooses.not_prefix_head present begins within

/-! ### Tags and instructions at fault -/

section Items

variable {delimiters : Delimiters} {mark : Option Char} {takesFormat inside : Bool}
  {kind : ParseErrorKind} {details : List String} {word rest : List Char}

theorem lookahead_closing (closing : List Char) :
    ParseErrorKind.expectedClosing.lookahead [String.ofList closing] = closing.length := by
  simp [ParseErrorKind.lookahead]

theorem TagFails.lookahead_pos
    (fails : TagFails delimiters mark takesFormat kind details word rest) :
    0 < kind.lookahead details := by
  cases fails with
  | name opens stops fails =>
    obtain ⟨rfl, rfl, -⟩ := fails
    decide
  | noName => decide
  | format takes opens writable blank fails => cases fails <;> decide
  | closing =>
    rw [lookahead_closing]
    exact List.length_pos_iff.mpr delimiters.closing_ne_nil

theorem InstructionFails.lookahead_pos
    (fails : InstructionFails delimiters kind details word rest) : 0 < kind.lookahead details := by
  cases fails with
  | format blankFirst fails =>
    obtain ⟨rfl, rfl, -⟩ := fails
    decide
  | definition blankFirst stops noDirective fails => cases fails <;> decide
  | closing =>
    rw [lookahead_closing]
    exact Nat.succ_pos _

theorem TagBody.extend {name : Name} {format : Option String}
    (reached : TagBody delimiters mark takesFormat name format word rest) (present : rest ≠ [])
    (more : List Char) : TagBody delimiters mark takesFormat name format word (rest ++ more) := by
  rw [← List.append_nil rest] at reached
  exact reached.behind present more

theorem FormatFails.extend (fails : FormatFails kind details word rest) (present : rest ≠ [])
    (more : List Char) : FormatFails kind details word (rest ++ more) := by
  cases fails with
  | missing blank stops noQuote =>
    exact .missing blank (stops.append more (.inl present)) (noQuote.append more (.inl present))
  | unclosed => exact absurd rfl present

/-- A tag that is at fault in front of enough characters is at fault in front of everything that
begins with them. -/
theorem TagFails.extend (fails : TagFails delimiters mark takesFormat kind details word rest)
    (seen : kind.lookahead details ≤ rest.length) (more : List Char) :
    TagFails delimiters mark takesFormat kind details word (rest ++ more) := by
  have present : rest ≠ [] := List.length_pos_iff.mp (Nat.lt_of_lt_of_le fails.lookahead_pos seen)
  cases fails with
  | name opens stops fails =>
    obtain ⟨rfl, rfl, noIdentifier, written⟩ := fails
    exact .name opens (stops.extend present more)
      ⟨rfl, rfl, noIdentifier.append more (.inl present), written⟩
  | noName opens stops noName =>
    exact .noName opens (stops.append more (.inl present)) (noName.append more (.inl present))
  | format takes opens writable blank fails =>
    exact .format takes opens writable blank (fails.extend present more)
  | closing reached missing =>
    rw [lookahead_closing] at seen
    exact .closing (reached.extend present more) (not_prefix_append missing seen more)

theorem InstructionBody.extend {item : Item} (reached : InstructionBody delimiters item word rest)
    (present : rest ≠ []) (more : List Char) :
    InstructionBody delimiters item word (rest ++ more) := by
  cases reached with
  | setFormat blankFirst begins quoted blankLast stops =>
    exact .setFormat blankFirst begins quoted blankLast (stops.append more (.inl present))
  | redelimited blankFirst noDirective chooses =>
    refine .redelimited blankFirst (chooses.not_beginsDirective_append present noDirective more) ?_
    rw [← List.append_nil rest] at chooses
    exact chooses.behind present more

/-- What is there instead of a definition is the equals sign that closes the instruction. -/
theorem DelimiterFails.exists_equals (fails : DelimiterFails kind word rest)
    (stops : Stops Text.isBlank (word ++ rest)) (present : rest ≠ []) :
    ∃ tail, rest = '=' :: tail := by
  have equals : Stops (· != '=') rest := by
    cases fails with
    | opening noDefinition => exact stops_equals stops noDefinition
    | closing defines blank ends stops noDefinition => exact stops_equals stops noDefinition
  obtain ⟨first, tail, rfl⟩ := List.exists_cons_of_ne_nil present
  exact ⟨tail, by simpa using equals⟩

theorem DelimiterFails.extend (fails : DelimiterFails kind word rest) (present : rest ≠ [])
    (more : List Char) : DelimiterFails kind word (rest ++ more) := by
  cases fails with
  | opening noDefinition => exact .opening (noDefinition.append more (.inl present))
  | closing defines blank ends stops noDefinition =>
    exact .closing defines blank (ends.extend present more) (stops.append more (.inl present))
      (noDefinition.append more (.inl present))

/-- An instruction that is at fault in front of enough characters is at fault in front of
everything that begins with them. -/
theorem InstructionFails.extend (fails : InstructionFails delimiters kind details word rest)
    (seen : kind.lookahead details ≤ rest.length) (more : List Char) :
    InstructionFails delimiters kind details word (rest ++ more) := by
  have present : rest ≠ [] := List.length_pos_iff.mp (Nat.lt_of_lt_of_le fails.lookahead_pos seen)
  cases fails with
  | format blankFirst fails =>
    obtain ⟨-, -, rfl, -⟩ := fails
    exact absurd rfl present
  | definition blankFirst stops noDirective fails =>
    obtain ⟨tail, rfl⟩ := fails.exists_equals stops present
    refine .definition blankFirst (stops.extend present more) ?_ (fails.extend present more)
    rw [beginsDirective_append_iff] at noDirective
    rwa [List.cons_append, beginsDirective_append_iff]
  | closing reached missing =>
    rw [lookahead_closing] at seen
    exact .closing (reached.extend present more) (not_prefix_append missing seen more)

/-! ### Items at fault -/

/-- Behind an opening delimiter and its mark, nothing has a say in whether a text begins like an
instruction or like the tag of a section. -/
theorem Delimiters.Unmarked.append {text : List Char}
    (unmarked : delimiters.Unmarked inside text) (marked : delimiters.mark? text ≠ none)
    (more : List Char) : delimiters.Unmarked inside (text ++ more) := by
  obtain ⟨noInstruction, noOpening, noClosing⟩ := unmarked
  obtain ⟨mark, marked⟩ := Option.ne_none_iff_exists'.mp marked
  obtain ⟨text, rfl⟩ := Delimiters.opening_prefix_of_mark? marked
  obtain ⟨blanks, behind, rfl, blank, stops⟩ := exists_blanks text
  rw [Delimiters.mark?_eq blank stops] at marked noOpening noClosing
  obtain ⟨behind, rfl⟩ := List.head?_eq_some_iff.mp marked
  have same : delimiters.mark? (delimiters.opening ++ (blanks ++ mark :: behind) ++ more) =
      (mark :: behind).head? := by
    simp only [List.append_assoc]
    rw [Delimiters.mark?_eq blank (stops.append more (.inl (List.cons_ne_nil _ _)))]
    rfl
  refine ⟨not_prefix_append noInstruction ?_ more, ?_, ?_⟩
  · simp only [Delimiters.instructionOpening, List.length_append, List.length_cons,
      List.length_nil]
    omega
  · rwa [same]
  · rwa [same]

theorem mark?_ne_none_of_tagFails
    (fails : TagFails delimiters none takesFormat kind details word rest) (present : rest ≠ []) :
    delimiters.mark? (word ++ rest) ≠ none := by
  obtain ⟨opening, text, rfl, opens, stops⟩ := exists_opening_of_tagFails fails
  rw [List.append_assoc, Delimiters.mark?_of_plain opens stops, ne_eq, List.head?_eq_none_iff]
  exact List.append_ne_nil_of_right_ne_nil _ present

theorem ItemFails.extend (fails : ItemFails delimiters inside kind details word rest)
    (seen : kind.lookahead details ≤ rest.length) (more : List Char) :
    ItemFails delimiters inside kind details word (rest ++ more) := by
  cases fails with
  | insert unmarked fails =>
    have present : rest ≠ [] := List.length_pos_iff.mp (Nat.lt_of_lt_of_le fails.lookahead_pos seen)
    refine .insert ?_ (fails.extend seen more)
    rw [← List.append_assoc]
    exact unmarked.append (mark?_ne_none_of_tagFails fails present) more
  | opened inverted fails => exact .opened inverted (fails.extend seen more)
  | closed within fails => exact .closed within (fails.extend seen more)
  | instruction fails => exact .instruction (fails.extend seen more)

theorem ItemFails.lookahead_pos (fails : ItemFails delimiters inside kind details word rest) :
    0 < kind.lookahead details := by
  cases fails with
  | insert unmarked fails => exact fails.lookahead_pos
  | opened inverted fails => exact fails.lookahead_pos
  | closed within fails => exact fails.lookahead_pos
  | instruction fails => exact fails.lookahead_pos

end Items

/-! ### Texts at fault -/

/-- A sequence of items that does not end with the text is read in the same way in front of
everything that begins with the rest. -/
theorem SequenceReads.extend {delimiters : Delimiters} {position : Position} {depth : Nat}
    {items : List PlacedItem} {text rest : List Char}
    (reads : SequenceReads rest position delimiters depth items text) (present : rest ≠ [])
    (more : List Char) : SequenceReads (rest ++ more) position delimiters depth items text := by
  induction reads with
  | nil => exact .nil
  | cons reads behind inductionHypothesis =>
    refine .cons (reads.behind fun isText => ?_) inductionHypothesis
    -- A literal text that does not end with the text goes on to an opening delimiter.
    rcases (reads.bounded isText).2 with ended | opening
    · exact absurd (List.append_eq_nil_iff.mp ended).2 present
    · rw [← List.append_assoc]
      exact ⟨opening, opening.trans (List.prefix_append _ _)⟩

section Texts

variable {delimiters : Delimiters} {around : List Name} {kind : ParseErrorKind}
  {details : List String} {word rest : List Char}

theorem TextFails.extend (fails : TextFails delimiters around kind details word rest)
    (seen : kind.lookahead details ≤ rest.length) (more : List Char) :
    TextFails delimiters around kind details word (rest ++ more) := by
  cases fails with
  | item fails => exact .item (fails.extend seen more)
  | mismatched reads other =>
    rw [List.append_assoc]
    exact .mismatched (reads.behind nofun) other
  | unclosed => exact absurd seen (Nat.not_succ_le_zero _)

theorem TextFails.rest_ne_nil (fails : TextFails delimiters around kind details word rest)
    (seen : kind.lookahead details ≤ rest.length) : rest ≠ [] := by
  cases fails with
  | item fails => exact List.length_pos_iff.mp (Nat.lt_of_lt_of_le fails.lookahead_pos seen)
  | mismatched reads other => exact List.append_ne_nil_of_left_ne_nil reads.word_ne_nil _
  | unclosed => exact absurd seen (Nat.not_succ_le_zero _)

end Texts

/-- A fault that does not come from reaching the end of a text is decided there: with whatever
stands behind the text, it fails with the same fault at the same position. -/
theorem compile_append_of_decided {delimiters : Delimiters} {first : String} {fault : ParseError}
    {offset : Nat} (failed : (compile delimiters first).outcome = .error fault)
    (place : Position.ofOffset first.toList offset = fault.position)
    (decided : offset + fault.kind.lookahead fault.details ≤ first.length) (second : String) :
    (compile delimiters (first ++ second)).outcome = .error fault := by
  obtain ⟨items, final, before, word, rest, split, reads, taken, fails, position⟩ :=
    compile_eq_error_iff.mp failed
  rw [← String.length_toList, split] at decided
  rw [split, position, ← List.append_assoc, Position.ofOffset_eq_after_iff] at place
  · subst place
    have seen : fault.kind.lookahead fault.details ≤ rest.length := by
      simp only [List.length_append] at decided
      omega
    refine compile_eq_error_iff.mpr ⟨items, final, before, word, rest ++ second.toList, ?_, ?_,
      taken, fails.extend seen _, position⟩
    · rw [String.toList_append, split]
      simp only [List.append_assoc]
    · rw [← List.append_assoc]
      exact reads.extend (List.append_ne_nil_of_right_ne_nil _ (fails.rest_ne_nil seen)) _
  · rw [List.append_assoc]
    omega

/-- The opening delimiter that begins behind the fault goes on behind the text. -/
theorem compile_append_of_decided_straddling :
    (compile .standard "a\n\x7b\x7b!\x7b").outcome =
        .error { kind := .expectedName, position := { line := 2, column := 2 } } ∧
      (compile .standard ("a\n\x7b\x7b!\x7b" ++ "\x7bb\x7d\x7d")).outcome =
        .error { kind := .expectedName, position := { line := 2, column := 2 } } := by
  have failed : (compile .standard "a\n\x7b\x7b!\x7b").outcome =
      .error { kind := .expectedName, position := { line := 2, column := 2 } } := by
    with_unfolding_all rfl
  have place : Position.ofOffset "a\n\x7b\x7b!\x7b".toList 4 = { line := 2, column := 2 } := by
    decide
  exact ⟨failed, compile_append_of_decided failed place (by decide) _⟩

end Stencil
