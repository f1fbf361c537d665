/-
This file proves what the readers of instructions read.

An instruction opens with the opening delimiter and an equals sign. If an identifier, a colon
and a quote follow, it sets the format of a type, and otherwise it chooses delimiters. The two
are told apart before the equals sign that closes the instruction, so nothing behind an
instruction has a say in how it is read.
-/

import Stencil.Proofs.Reading.Tag

namespace Stencil

/-! ### Formats of types -/

/-- The rule of the words that set the format of a type. -/
def directiveRule : Rule (String × String) where
  reads value word _ :=
    ∃ head quotation, word = head ++ '"' :: quotation ∧ DirectiveHead value.1 head ∧
      Quotation value.2.toList quotation
  fails kind details word rest :=
    kind = .expectedClosing ∧ details = ["\""] ∧ rest = [] ∧
      ∃ typeName head text, word = head ++ '"' :: text ∧ DirectiveHead typeName head ∧
        Unclosed text

theorem DirectiveHead.stops_isBlank {typeName : String} {head : List Char}
    (begins : DirectiveHead typeName head) (rest : List Char) :
    Stops Text.isBlank (head ++ rest) := by
  cases begins with
  | parts identifier blankSecond blankThird =>
    rw [List.append_assoc]
    exact .of_forall identifier.1 fun character member =>
      isBlank_of_isIdentifierChar (identifier.2 character member)

namespace Cursor

/-- Behind an identifier and a colon, what is left of the directive is a text in quotes. -/
theorem formatDirective?_head {cursor : Cursor} {typeName : String} {head rest : List Char}
    (ahead : cursor.ahead = head ++ '"' :: rest) (begins : DirectiveHead typeName head) :
    cursor.formatDirective? = (cursor.past head ('"' :: rest)).quoted?.map (typeName, ·) := by
  cases begins with
  | parts identifier blankSecond blankThird =>
    rename_i second third
    simp only [List.append_assoc, List.cons_append] at ahead
    have stopsIdentifier : Stops isIdentifierChar (second ++ ':' :: (third ++ '"' :: rest)) := by
      refine (stops_isNameChar_iff.mp (stops_isNameChar_blanks blankSecond ?_)).1
      simp [show isNameChar ':' = false by decide]
    have stopsColon : Stops Text.isBlank (':' :: (third ++ '"' :: rest)) := by
      simp [show Text.isBlank ':' = false by decide]
    have stopsQuote : Stops Text.isBlank ('"' :: rest) := by
      simp [show Text.isBlank '"' = false by decide]
    rw [formatDirective?, identifier?_eq_some_iff.mpr ⟨_, ahead, rfl, identifier, stopsIdentifier⟩]
    simp only []
    rw [skipBlanks_eq (ahead_past _ _ _) blankSecond stopsColon,
      accept?_singleton_eq (ahead_past _ _ _)]
    simp only []
    rw [skipBlanks_eq (ahead_past _ _ _) blankThird stopsQuote]
    simp [past_past]

theorem formatDirective?_governed : directiveRule.Governs formatDirective? where
  read_of := by
    rintro cursor ⟨typeName, format⟩ word rest ahead ⟨head, quotation, rfl, begins, quoted⟩
    rw [List.append_assoc, List.cons_append] at ahead
    have read : (cursor.past head ('"' :: (quotation ++ rest))).quoted? = _ :=
      quoted?_governed.read_of (show _ = '"' :: quotation ++ rest from rfl) ⟨_, rfl, quoted⟩
    rw [formatDirective?_head ahead begins, read]
    simp [Reading.map, past_past]
  fault_of := by
    rintro cursor kind details word rest ahead
      ⟨rfl, rfl, rfl, typeName, head, text, rfl, begins, unclosed⟩
    rw [List.append_nil] at ahead
    have failed : (cursor.past head ('"' :: text)).quoted? = _ :=
      quoted?_governed.fault_of (List.append_nil _).symm ⟨rfl, rfl, rfl, text, rfl, unclosed⟩
    rw [formatDirective?_head ahead begins, failed]
    simp [Reading.map, past_past]
  covers := by
    intro cursor
    cases read : cursor.identifier? with
    | none => exact .inl (by rw [formatDirective?, read])
    | some found =>
      obtain ⟨typeName, next⟩ := found
      obtain ⟨text, ahead, rfl, identifier, -⟩ := identifier?_eq_some_iff.mp read
      obtain ⟨second, behind, rfl, blankSecond, stops⟩ := exists_blanks text
      have skipped : (cursor.past typeName.toList (second ++ behind)).skipBlanks =
          cursor.past (typeName.toList ++ second) behind := by
        rw [skipBlanks_eq (ahead_past _ _ _) blankSecond stops, past_past]
      cases accepted : (cursor.past (typeName.toList ++ second) behind).accept? [':'] with
      | none => exact .inl (by simp [formatDirective?, read, skipped, accepted])
      | some behindColon =>
        obtain ⟨text, colon, rfl⟩ := accept?_eq_some accepted
        rw [ahead_past] at colon
        subst colon
        obtain ⟨third, final, rfl, blankThird, stopsThird⟩ := exists_blanks text
        have begins : DirectiveHead typeName (typeName.toList ++ (second ++ ':' :: third)) :=
          .parts identifier blankSecond blankThird
        by_cases quote : Stops (· == '"') final
        · refine .inl ?_
          rw [formatDirective?, read]
          simp only []
          rw [skipped, accepted]
          simp only []
          rw [skipBlanks_eq (ahead_past _ _ _) blankThird stopsThird,
            quoted?_eq_none_iff.mpr quote]
          rfl
        · refine .inr ?_
          obtain ⟨text, rfl⟩ := singleton_prefix_iff.mpr quote
          rcases exists_quotation_or_unclosed text with
            ⟨content, quotation, rest, rfl, quoted⟩ | unclosed
          · exact .inl ⟨(typeName, content), _, rest, by simp [ahead], _, quotation, rfl, begins,
              quoted⟩
          · exact .inr ⟨_, _, _, [], by simp [ahead], rfl, rfl, rfl, typeName, _, text, rfl,
              begins, unclosed⟩

theorem formatDirective?_eq_none_iff {cursor : Cursor} :
    cursor.formatDirective? = .ok none ↔ ¬ BeginsDirective cursor.ahead := by
  constructor
  · rintro absent ⟨typeName, head, rest, begins, ahead⟩
    rw [formatDirective?_head ahead begins] at absent
    have present : (cursor.past head ('"' :: rest)).quoted? ≠ .ok none := by
      rw [ne_eq, quoted?_eq_none_iff]
      simp
    cases quoted : (cursor.past head ('"' :: rest)).quoted? with
    | error fault => simp [quoted, Reading.map] at absent
    | ok answer =>
      cases answer with
      | none => exact present quoted
      | some found => simp [quoted, Reading.map] at absent
  · intro missing
    rcases formatDirective?_governed.covers cursor with
      absent | ⟨value, word, rest, ahead, head, quotation, rfl, begins, -⟩ |
        ⟨kind, details, word, rest, ahead, -, -, -, typeName, head, text, rfl, begins, -⟩
    · exact absent
    · exact absurd ⟨_, head, quotation ++ rest, begins, by simp [ahead]⟩ missing
    · exact absurd ⟨_, head, text ++ rest, begins, by simp [ahead]⟩ missing

end Cursor

/-! ### Choices of delimiters -/

/-- The words that choose delimiters, read as far as they go in front of a rest. -/
inductive DelimiterWords (chosen : Delimiters) : List Char → List Char → Prop where
  | parts {second last rest : List Char} (definesOpening : IsDefinition chosen.opening)
      (blankSecond : Blanks second) (apart : second ≠ [])
      (definesClosing : IsDefinition chosen.closing) (blankLast : Blanks last)
      (ends : Stops isDefinitionChar (last ++ rest)) (stops : Stops Text.isBlank rest) :
      DelimiterWords chosen (chosen.opening ++ (second ++ (chosen.closing ++ last))) rest

/-- The words that choose delimiters are at fault where one of the two definitions is
missing. -/
inductive DelimiterFails : ParseErrorKind → List Char → List Char → Prop where
  | opening {rest : List Char} (noDefinition : Stops isDefinitionChar rest) :
      DelimiterFails .missingOpeningDefinition [] rest
  | closing {opening blanks rest : List Char} (defines : IsDefinition opening)
      (blank : Blanks blanks) (ends : Stops isDefinitionChar (blanks ++ rest))
      (stops : Stops Text.isBlank rest) (noDefinition : Stops isDefinitionChar rest) :
      DelimiterFails .missingClosingDefinition (opening ++ blanks) rest

theorem IsDefinition.stops_isBlank {definition : List Char} (defines : IsDefinition definition)
    (rest : List Char) : Stops Text.isBlank (definition ++ rest) :=
  .of_forall defines.1 fun character member =>
    isBlank_of_isDefinitionChar (defines.2 character member)

/-- Two definitions that are read one behind the other have blanks between them. -/
theorem IsDefinition.apart {definition blanks rest : List Char}
    (defines : IsDefinition definition)
    (ends : Stops isDefinitionChar (blanks ++ (definition ++ rest))) : blanks ≠ [] := by
  rintro rfl
  obtain ⟨first, others, rfl⟩ := List.exists_cons_of_ne_nil defines.1
  have refused : isDefinitionChar first = false := by simpa using ends
  simp [defines.2 first List.mem_cons_self] at refused

theorem stops_isDefinitionChar_of_blanks {blanks : List Char} (blank : Blanks blanks)
    (present : blanks ≠ []) (rest : List Char) : Stops isDefinitionChar (blanks ++ rest) :=
  .of_forall present fun character member => isDefinitionChar_of_isBlank (blank character member)

/-- Every text begins with words that choose delimiters, or one of the definitions is missing. -/
theorem exists_delimiterWords (text : List Char) :
    (∃ chosen word rest, text = word ++ rest ∧ DelimiterWords chosen word rest) ∨
      ∃ kind word rest, text = word ++ rest ∧ DelimiterFails kind word rest := by
  cases readOpening : (Cursor.ofText text).definition? with
  | none => exact .inr ⟨_, [], text, rfl, .opening (Cursor.definition?_eq_none_iff.mp readOpening)⟩
  | some found =>
    obtain ⟨⟨opening, openingPresent⟩, next⟩ := found
    obtain ⟨behind, ahead, -, definesOpening, endsOpening⟩ :=
      Cursor.definition?_eq_some_iff.mp readOpening
    change text = opening ++ behind at ahead
    subst ahead
    obtain ⟨second, behind, rfl, blankSecond, stopsSecond⟩ := exists_blanks behind
    cases readClosing : (Cursor.ofText behind).definition? with
    | none =>
      exact .inr ⟨_, _, behind, (List.append_assoc ..).symm,
        .closing definesOpening blankSecond endsOpening stopsSecond
          (Cursor.definition?_eq_none_iff.mp readClosing)⟩
    | some found =>
      obtain ⟨⟨closing, closingPresent⟩, next⟩ := found
      obtain ⟨behind, ahead, -, definesClosing, endsClosing⟩ :=
        Cursor.definition?_eq_some_iff.mp readClosing
      change _ = closing ++ behind at ahead
      subst ahead
      obtain ⟨last, rest, rfl, blankLast, stopsLast⟩ := exists_blanks behind
      refine .inl ⟨⟨opening, closing, openingPresent, closingPresent⟩, _, rest, ?_,
        .parts definesOpening blankSecond (definesClosing.apart endsOpening) definesClosing
          blankLast endsClosing stopsLast⟩
      simp

namespace Cursor

theorem delimiterDirective_eq {cursor : Cursor} {chosen : Delimiters} {word rest : List Char}
    (ahead : cursor.ahead = word ++ rest) (words : DelimiterWords chosen word rest) :
    cursor.delimiterDirective = .ok (chosen, cursor.past word rest) := by
  cases words with
  | parts definesOpening blankSecond apart definesClosing blankLast ends stops =>
    rename_i second last
    simp only [List.append_assoc] at ahead
    have readOpening : cursor.definition? = some (⟨chosen.opening, chosen.opening_ne_nil⟩, _) :=
      definition?_eq_some_iff.mpr ⟨_, ahead, rfl, definesOpening,
        stops_isDefinitionChar_of_blanks blankSecond apart _⟩
    have readClosing : (cursor.past (chosen.opening ++ second)
        (chosen.closing ++ (last ++ rest))).definition? =
          some (⟨chosen.closing, chosen.closing_ne_nil⟩, _) :=
      definition?_eq_some_iff.mpr ⟨_, rfl, rfl, definesClosing, ends⟩
    rw [delimiterDirective, readOpening]
    simp only []
    rw [skipBlanks_eq (ahead_past _ _ _) blankSecond (definesClosing.stops_isBlank _), past_past,
      readClosing]
    simp only []
    rw [skipBlanks_eq (ahead_past _ _ _) blankLast stops]
    simp [past_past]

theorem delimiterDirective_fault {cursor : Cursor} {kind : ParseErrorKind}
    {word rest : List Char} (ahead : cursor.ahead = word ++ rest)
    (fails : DelimiterFails kind word rest) :
    cursor.delimiterDirective = .error ((cursor.past word rest).fault kind) := by
  cases fails with
  | opening noDefinition =>
    rw [List.nil_append] at ahead
    rw [delimiterDirective, definition?_eq_none_iff.mpr (ahead ▸ noDefinition), ← ahead,
      past_nil_ahead]
  | closing defines blank ends stops noDefinition =>
    rename_i opening blanks
    rw [List.append_assoc] at ahead
    have readOpening : cursor.definition? = some (⟨opening, defines.1⟩, _) :=
      definition?_eq_some_iff.mpr ⟨_, ahead, rfl, defines, ends⟩
    rw [delimiterDirective, readOpening]
    simp only []
    rw [skipBlanks_eq (ahead_past _ _ _) blank stops, past_past,
      definition?_eq_none_iff.mpr noDefinition]

end Cursor

/-! ### Instructions -/

/-- Everything of an instruction in front of the equals sign that closes it, read as far as it
goes in front of a rest. -/
inductive InstructionBody (delimiters : Delimiters) : Item → List Char → List Char → Prop where
  | setFormat {typeName format : String} {first head quotation last rest : List Char}
      (blankFirst : Blanks first) (begins : DirectiveHead typeName head)
      (quoted : Quotation format.toList quotation) (blankLast : Blanks last)
      (stops : Stops Text.isBlank rest) :
      InstructionBody delimiters (.setFormat typeName format)
        (delimiters.instructionOpening ++ (first ++ (head ++ '"' :: (quotation ++ last)))) rest
  | redelimited {chosen : Delimiters} {first words rest : List Char} (blankFirst : Blanks first)
      (noDirective : ¬ BeginsDirective (words ++ rest))
      (chooses : DelimiterWords chosen words rest) :
      InstructionBody delimiters (.redelimited chosen)
        (delimiters.instructionOpening ++ (first ++ words)) rest

/-- An instruction is at fault in front of a rest: in the format of a type, in the definitions of
delimiters, or where it should be closed. -/
inductive InstructionFails (delimiters : Delimiters) :
    ParseErrorKind → List String → List Char → List Char → Prop where
  | format {kind : ParseErrorKind} {details : List String} {first word rest : List Char}
      (blankFirst : Blanks first) (fails : directiveRule.fails kind details word rest) :
      InstructionFails delimiters kind details
        (delimiters.instructionOpening ++ (first ++ word)) rest
  | definition {kind : ParseErrorKind} {first word rest : List Char} (blankFirst : Blanks first)
      (stops : Stops Text.isBlank (word ++ rest)) (noDirective : ¬ BeginsDirective (word ++ rest))
      (fails : DelimiterFails kind word rest) :
      InstructionFails delimiters kind [] (delimiters.instructionOpening ++ (first ++ word)) rest
  | closing {item : Item} {body rest : List Char}
      (reached : InstructionBody delimiters item body rest)
      (missing : ¬ delimiters.instructionClosing <+: rest) :
      InstructionFails delimiters .expectedClosing
        [String.ofList delimiters.instructionClosing] body rest

/-- The rule of an instruction. -/
def instructionRule (delimiters : Delimiters) : Rule Item where
  reads item word rest :=
    ∃ body, word = body ++ delimiters.instructionClosing ∧
      InstructionBody delimiters item body (delimiters.instructionClosing ++ rest)
  fails := InstructionFails delimiters

namespace Cursor

variable {cursor : Cursor} {delimiters : Delimiters}

/-- An instruction whose body is read goes on to its closing. -/
theorem instruction?_body {item : Item} {body rest : List Char}
    (ahead : cursor.ahead = body ++ rest) (reached : InstructionBody delimiters item body rest) :
    cursor.instruction? delimiters =
      (cursor.past body rest).close delimiters.instructionClosing item := by
  cases reached with
  | setFormat blankFirst begins quoted blankLast stops =>
    rename_i typeName format first head quotation last
    simp only [List.append_assoc, List.cons_append] at ahead
    have reads : directiveRule.reads (typeName, format) (head ++ '"' :: quotation)
        (last ++ rest) := ⟨head, quotation, rfl, begins, quoted⟩
    have read : (cursor.past (delimiters.instructionOpening ++ first)
        (head ++ '"' :: (quotation ++ (last ++ rest)))).formatDirective? = _ :=
      formatDirective?_governed.read_of (by simp) reads
    rw [instruction?, accept?_eq ahead]
    simp only []
    rw [skipBlanks_eq (ahead_past _ _ _) blankFirst (begins.stops_isBlank _), past_past, read]
    simp only []
    rw [skipBlanks_eq (ahead_past _ _ _) blankLast stops]
    simp [past_past]
  | redelimited blankFirst noDirective chooses =>
    rename_i chosen first words
    simp only [List.append_assoc] at ahead
    have stops : Stops Text.isBlank (words ++ rest) := by
      cases chooses with
      | parts definesOpening => rw [List.append_assoc]; exact definesOpening.stops_isBlank _
    rw [instruction?, accept?_eq ahead]
    simp only []
    rw [skipBlanks_eq (ahead_past _ _ _) blankFirst stops, past_past,
      formatDirective?_eq_none_iff.mpr noDirective]
    simp only []
    rw [delimiterDirective_eq (ahead_past _ _ _) chooses]
    simp [past_past]

theorem instruction?_eq_none_iff :
    cursor.instruction? delimiters = .ok none ↔
      ¬ delimiters.instructionOpening <+: cursor.ahead := by
  rw [← accept?_eq_none_iff]
  constructor
  · intro absent
    unfold instruction? at absent
    split at absent
    · assumption
    · -- Behind its opening an instruction is read or at fault.
      split at absent
      · cases absent
      · unfold close at absent
        split at absent <;> cases absent
      · split at absent
        · cases absent
        · unfold close at absent
          split at absent <;> cases absent
  · intro refused
    rw [instruction?, refused]

theorem instruction?_governed :
    (instructionRule delimiters).Governs (instruction? · delimiters) where
  read_of := by
    rintro cursor item word rest ahead ⟨body, rfl, reached⟩
    rw [List.append_assoc] at ahead
    rw [instruction?_body ahead reached, close_eq (ahead_past _ _ _), past_past]
  fault_of := by
    intro cursor kind details word rest ahead fails
    cases fails with
    | format blankFirst fails =>
      rename_i first word
      have stops : Stops Text.isBlank (word ++ rest) := by
        obtain ⟨-, -, -, typeName, head, text, rfl, begins, -⟩ := fails
        rw [List.append_assoc]
        exact begins.stops_isBlank _
      simp only [List.append_assoc] at ahead
      rw [instruction?, accept?_eq ahead]
      simp only []
      rw [skipBlanks_eq (ahead_past _ _ _) blankFirst stops, past_past,
        formatDirective?_governed.fault_of (ahead_past _ _ _) fails]
      simp [past_past]
    | definition blankFirst stops noDirective fails =>
      simp only [List.append_assoc] at ahead
      rw [instruction?, accept?_eq ahead]
      simp only []
      rw [skipBlanks_eq (ahead_past _ _ _) blankFirst stops, past_past,
        formatDirective?_eq_none_iff.mpr noDirective]
      simp only []
      rw [delimiterDirective_fault (ahead_past _ _ _) fails]
      simp [past_past]
    | closing reached missing => rw [instruction?_body ahead reached, close_fault missing]
  covers := by
    intro cursor
    by_cases opened : delimiters.instructionOpening <+: cursor.ahead
    · refine .inr ?_
      have closes {item : Item} {body final : List Char} (ahead : cursor.ahead = body ++ final)
          (reached : InstructionBody delimiters item body final) :
          (∃ item word rest, cursor.ahead = word ++ rest ∧
            (instructionRule delimiters).reads item word rest) ∨
          ∃ kind details word rest, cursor.ahead = word ++ rest ∧
            (instructionRule delimiters).fails kind details word rest := by
        by_cases present : delimiters.instructionClosing <+: final
        · obtain ⟨rest, rfl⟩ := present
          exact .inl ⟨item, _, rest, by rw [ahead, List.append_assoc], body, rfl, reached⟩
        · exact .inr ⟨_, _, body, final, ahead, .closing reached present⟩
      obtain ⟨text, ahead⟩ := opened
      obtain ⟨first, behind, rfl, blankFirst, stops⟩ := exists_blanks text
      rcases formatDirective?_governed.covers (.ofText behind) with
        absent | ⟨⟨typeName, format⟩, word, rest, directive, head, quotation, rfl, begins, quoted⟩ |
          ⟨kind, details, word, rest, directive, fails⟩
      · have noDirective : ¬ BeginsDirective behind := formatDirective?_eq_none_iff.mp absent
        rcases exists_delimiterWords behind with
          ⟨chosen, words, rest, rfl, chooses⟩ | ⟨kind, word, rest, rfl, fails⟩
        · exact closes (by simp [← ahead]) (.redelimited blankFirst noDirective chooses)
        · exact .inr ⟨kind, [], _, rest, by simp [← ahead],
            .definition blankFirst stops noDirective fails⟩
      · change behind = _ at directive
        obtain ⟨last, final, rfl, blankLast, stopsLast⟩ := exists_blanks rest
        exact closes (by simp [← ahead, directive])
          (.setFormat blankFirst begins quoted blankLast stopsLast)
      · change behind = _ at directive
        exact .inr ⟨kind, details, _, rest, by simp [← ahead, directive],
          .format blankFirst fails⟩
    · exact .inl (instruction?_eq_none_iff.mpr opened)

end Cursor

end Stencil
