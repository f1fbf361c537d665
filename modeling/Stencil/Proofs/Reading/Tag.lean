/-
This file proves what the readers of tags read.

A tag is governed by one rule for all marks. Up to its closing delimiter it is a body: the
opening, the name, blanks and the format, each of them read as far as it goes. In front of the
closing delimiter the body is a tag; in front of anything else it is a fault there. Whether a
body is read as it is depends on what comes behind it only through the first character, and the
closing delimiter is never empty, so nothing behind a tag has a say in how it is read.
-/

import Stencil.Proofs.Reading.Name

namespace Stencil

/-! ### Openings -/

/-- No mark of a tag is a blank. -/
def SolidMark (mark : Option Char) : Prop := ∀ character ∈ mark, Text.isBlank character = false

namespace Cursor

theorem tagOpening?_eq {cursor : Cursor} {delimiters : Delimiters} {mark : Option Char}
    {opening rest : List Char} (ahead : cursor.ahead = opening ++ rest)
    (opens : TagOpening delimiters mark opening) (solid : SolidMark mark)
    (stops : Stops Text.isBlank rest) :
    cursor.tagOpening? delimiters mark = some (cursor.past opening rest) := by
  cases opens with
  | plain blank =>
    rename_i blanks
    rw [List.append_assoc] at ahead
    simp only [tagOpening?, accept?_eq ahead]
    rw [skipBlanks_eq (ahead_past _ _ _) blank stops, past_past]
  | marked mark blankBefore blankAfter =>
    rename_i before after
    rw [List.append_assoc, List.append_assoc, List.cons_append] at ahead
    have stopsMark : Stops Text.isBlank (mark :: (after ++ rest)) := by
      simpa using solid mark rfl
    have accepted : (cursor.past (delimiters.opening ++ before) (mark :: (after ++ rest))).accept?
        [mark] = some (cursor.past (delimiters.opening ++ (before ++ [mark])) (after ++ rest)) := by
      rw [accept?_singleton_eq (ahead_past _ _ _), past_past, List.append_assoc]
    simp only [tagOpening?, accept?_eq ahead]
    rw [skipBlanks_eq (ahead_past _ _ _) blankBefore stopsMark, past_past, accepted,
      Option.map_some, skipBlanks_eq (ahead_past _ _ _) blankAfter stops, past_past]
    simp

/-- An opening that is read goes on to the last of its blanks. -/
theorem exists_of_tagOpening? {cursor next : Cursor} {delimiters : Delimiters}
    {mark : Option Char} (opened : cursor.tagOpening? delimiters mark = some next) :
    ∃ opening rest, cursor.ahead = opening ++ rest ∧ next = cursor.past opening rest ∧
      TagOpening delimiters mark opening ∧ Stops Text.isBlank rest := by
  unfold tagOpening? at opened
  split at opened
  · cases opened
  · rename_i behindOpening accepted
    obtain ⟨rest, ahead, rfl⟩ := accept?_eq_some accepted
    obtain ⟨blanks, behind, rfl, blank, stops⟩ := exists_blanks rest
    rw [skipBlanks_eq (ahead_past _ _ _) blank stops, past_past] at opened
    split at opened
    · cases opened
      exact ⟨_, behind, by rw [ahead, List.append_assoc], rfl, .plain blank, stops⟩
    · rename_i character
      obtain ⟨behindMark, acceptedMark, rfl⟩ := Option.map_eq_some_iff.mp opened
      obtain ⟨rest, aheadMark, rfl⟩ := accept?_eq_some acceptedMark
      obtain ⟨after, final, rfl, blankAfter, stopsAfter⟩ := exists_blanks rest
      rw [ahead_past] at aheadMark
      refine ⟨delimiters.opening ++ (blanks ++ character :: after), final, ?_, ?_,
        .marked character blank blankAfter, stopsAfter⟩
      · simp [ahead, aheadMark]
      · rw [past_past, skipBlanks_eq (ahead_past _ _ _) blankAfter stopsAfter, past_past]
        simp

end Cursor

/-! ### Formats -/

/-- A format is spelled in front of a rest into which it does not go on, in a tag that may or may
not have one. -/
structure FormatBefore (takesFormat : Bool) (format : Option String) (word rest : List Char) :
    Prop where
  spelled : FormatSpelling format word
  taken : format ≠ none → takesFormat = true
  stops : Stops Text.isBlank rest
  noColon : format = none → takesFormat = true → Stops (· == ':') rest

/-- A format is at fault: behind its colon stands no text in quotes, or one that is not closed. -/
inductive FormatFails : ParseErrorKind → List String → List Char → List Char → Prop where
  | missing {blanks rest : List Char} (blank : Blanks blanks) (stops : Stops Text.isBlank rest)
      (noQuote : Stops (· == '"') rest) :
      FormatFails .expectedFormatString [] (':' :: blanks) rest
  | unclosed {blanks text : List Char} (blank : Blanks blanks) (unclosed : Unclosed text) :
      FormatFails .expectedClosing ["\""] (':' :: (blanks ++ '"' :: text)) []

/-- Where the name of a tag ends, a format is spelled or at fault. -/
theorem exists_format (takesFormat : Bool) {text : List Char} (stops : Stops Text.isBlank text) :
    (∃ format word rest, text = word ++ rest ∧ FormatBefore takesFormat format word rest) ∨
      takesFormat = true ∧ ∃ kind details word rest, text = word ++ rest ∧
        FormatFails kind details word rest := by
  by_cases colon : takesFormat = true ∧ ¬ Stops (· == ':') text
  · obtain ⟨takes, colon⟩ := colon
    obtain ⟨text, rfl⟩ := singleton_prefix_iff.mpr colon
    obtain ⟨blanks, rest, rfl, blank, stopsQuote⟩ := exists_blanks text
    by_cases quote : Stops (· == '"') rest
    · exact .inr ⟨takes, _, _, ':' :: blanks, rest, rfl, .missing blank stopsQuote quote⟩
    obtain ⟨text, rfl⟩ := singleton_prefix_iff.mpr quote
    rcases exists_quotation_or_unclosed text with
      ⟨content, quotation, behind, rfl, quoted⟩ | unclosed
    · obtain ⟨after, final, rfl, blankAfter, stopsAfter⟩ := exists_blanks behind
      refine .inl ⟨some content, ':' :: (blanks ++ '"' :: (quotation ++ after)), final, ?_,
        .given blank quoted blankAfter, fun _ => takes, stopsAfter, nofun⟩
      simp
    · exact .inr ⟨takes, _, _, ':' :: (blanks ++ '"' :: text), [], by simp,
        .unclosed blank unclosed⟩
  · refine .inl ⟨none, [], text, rfl, .absent, fun present => absurd rfl present, stops, ?_⟩
    intro _ takes
    exact Classical.not_not.mp fun colon' => colon ⟨takes, colon'⟩

namespace Cursor

/-- The format of a tag that may have one, or no format where it may not. -/
def formatOf (cursor : Cursor) (takesFormat : Bool) : Except ParseError (Option String × Cursor) :=
  if takesFormat then cursor.tagFormat else .ok (none, cursor)

theorem formatOf_eq {cursor : Cursor} {takesFormat : Bool} {format : Option String}
    {word rest : List Char} (ahead : cursor.ahead = word ++ rest)
    (before : FormatBefore takesFormat format word rest) :
    cursor.formatOf takesFormat = .ok (format, cursor.past word rest) := by
  obtain ⟨spelled, taken, stops, noColon⟩ := before
  cases spelled with
  | absent =>
    rw [List.nil_append] at ahead
    rw [formatOf, ← ahead, past_nil_ahead]
    split
    · rename_i takes
      rw [tagFormat, accept?_singleton_eq_none_iff.mpr (ahead ▸ noColon rfl takes)]
    · rfl
  | given blankBefore quoted blankAfter =>
    rename_i format quotation before after
    have tail : before ++ '"' :: (quotation ++ after) ++ rest =
        before ++ ('"' :: quotation ++ (after ++ rest)) := by simp
    rw [List.cons_append, tail] at ahead
    have stopsQuote : Stops Text.isBlank ('"' :: quotation ++ (after ++ rest)) := by
      simp [show Text.isBlank '"' = false by decide]
    rw [formatOf, if_pos (taken nofun), tagFormat, accept?_singleton_eq ahead]
    simp only []
    rw [skipBlanks_eq (ahead_past _ _ _) blankBefore stopsQuote,
      quoted?_governed.read_of (ahead_past _ _ _) ⟨quotation, rfl, quoted⟩]
    simp only []
    rw [skipBlanks_eq (ahead_past _ _ _) blankAfter stops]
    simp [past_past]

theorem formatOf_fault {cursor : Cursor} {kind : ParseErrorKind} {details : List String}
    {word rest : List Char} (ahead : cursor.ahead = word ++ rest)
    (fails : FormatFails kind details word rest) :
    cursor.formatOf true = .error ((cursor.past word rest).fault kind details) := by
  cases fails with
  | missing blank stops noQuote =>
    rename_i blanks
    rw [List.cons_append] at ahead
    rw [formatOf, if_pos rfl, tagFormat, accept?_singleton_eq ahead]
    simp only []
    rw [skipBlanks_eq (ahead_past _ _ _) blank stops, quoted?_eq_none_iff.mpr noQuote]
    simp [past_past]
  | unclosed blank unclosed =>
    rename_i blanks text
    have stops : Stops Text.isBlank ('"' :: text ++ []) := by
      simp [show Text.isBlank '"' = false by decide]
    have tail : ':' :: (blanks ++ '"' :: text) ++ [] = ':' :: (blanks ++ ('"' :: text ++ [])) := by
      simp
    rw [tail] at ahead
    rw [formatOf, if_pos rfl, tagFormat, accept?_singleton_eq ahead]
    simp only []
    rw [skipBlanks_eq (ahead_past _ _ _) blank stops,
      quoted?_governed.fault_of (ahead_past _ _ _) ⟨rfl, rfl, rfl, text, rfl, unclosed⟩]
    simp [past_past]

end Cursor

/-! ### Tags -/

/-- Everything of a tag in front of its closing delimiter, read as far as it goes in front of a
rest. -/
inductive TagBody (delimiters : Delimiters) (mark : Option Char) (takesFormat : Bool)
    (name : Name) (format : Option String) : List Char → List Char → Prop where
  | parts {opening blanks formatted rest : List Char}
      (opens : TagOpening delimiters mark opening) (writable : name.IsWritable)
      (blank : Blanks blanks) (before : FormatBefore takesFormat format formatted rest)
      (ends : name.EndsBefore (blanks ++ (formatted ++ rest))) :
      TagBody delimiters mark takesFormat name format
        (opening ++ (name.toString.toList ++ (blanks ++ formatted))) rest

/-- A tag is at fault in front of a rest: in its name, where a name should begin, in its format,
or where its closing delimiter should stand. -/
inductive TagFails (delimiters : Delimiters) (mark : Option Char) (takesFormat : Bool) :
    ParseErrorKind → List String → List Char → List Char → Prop where
  | name {kind : ParseErrorKind} {details : List String} {opening word rest : List Char}
      (opens : TagOpening delimiters mark opening) (stops : Stops Text.isBlank (word ++ rest))
      (fails : nameRule.fails kind details word rest) :
      TagFails delimiters mark takesFormat kind details (opening ++ word) rest
  | noName {opening rest : List Char} (opens : TagOpening delimiters mark opening)
      (stops : Stops Text.isBlank rest) (noName : Stops isNameChar rest) :
      TagFails delimiters mark takesFormat .expectedName [] opening rest
  | format {kind : ParseErrorKind} {details : List String} {name : Name}
      {opening blanks word rest : List Char} (takes : takesFormat = true)
      (opens : TagOpening delimiters mark opening) (writable : name.IsWritable)
      (blank : Blanks blanks) (fails : FormatFails kind details word rest) :
      TagFails delimiters mark takesFormat kind details
        (opening ++ (name.toString.toList ++ (blanks ++ word))) rest
  | closing {name : Name} {format : Option String} {body rest : List Char}
      (reached : TagBody delimiters mark takesFormat name format body rest)
      (missing : ¬ delimiters.closing <+: rest) :
      TagFails delimiters mark takesFormat .expectedClosing [String.ofList delimiters.closing]
        body rest

/-- The rule of a tag. -/
def tagRule (delimiters : Delimiters) (mark : Option Char) (takesFormat : Bool) :
    Rule (Name × Option String) where
  reads value word rest :=
    ∃ body, word = body ++ delimiters.closing ∧
      TagBody delimiters mark takesFormat value.1 value.2 body (delimiters.closing ++ rest)
  fails := TagFails delimiters mark takesFormat

namespace Cursor

variable {cursor : Cursor} {delimiters : Delimiters} {mark : Option Char} {takesFormat : Bool}

/-- A tag whose name is read goes on behind the blanks behind the name. -/
theorem tag?_named {name : Name} {opening blanks rest : List Char} (solid : SolidMark mark)
    (ahead : cursor.ahead = opening ++ (name.toString.toList ++ (blanks ++ rest)))
    (opens : TagOpening delimiters mark opening) (writable : name.IsWritable)
    (ends : name.EndsBefore (blanks ++ rest)) (blank : Blanks blanks)
    (stops : Stops Text.isBlank rest) :
    cursor.tag? delimiters mark takesFormat =
      match (cursor.past (opening ++ (name.toString.toList ++ blanks)) rest).formatOf
          takesFormat with
      | .error fault => .error fault
      | .ok (format, next) => next.close delimiters.closing (name, format) := by
  rw [tag?, tagOpening?_eq ahead opens solid (Name.stops_isBlank writable _)]
  simp only []
  rw [name?_governed.read_of (ahead_past _ _ _) ⟨rfl, writable, ends⟩]
  simp only []
  rw [skipBlanks_eq (ahead_past _ _ _) blank stops]
  simp only [past_past, List.append_assoc]
  cases takesFormat <;> rfl

theorem close_eq {α : Type} {closing rest : List Char} (ahead : cursor.ahead = closing ++ rest)
    (value : α) : cursor.close closing value = .ok (some (value, cursor.past closing rest)) := by
  rw [close, accept?_eq ahead]

theorem close_fault {α : Type} {closing : List Char} (missing : ¬ closing <+: cursor.ahead)
    (value : α) :
    cursor.close closing value =
      .error (cursor.fault .expectedClosing [String.ofList closing]) := by
  rw [close, accept?_eq_none_iff.mpr missing]

/-- A tag whose body is read goes on to its closing delimiter. -/
theorem tag?_body {name : Name} {format : Option String} {body rest : List Char}
    (solid : SolidMark mark) (ahead : cursor.ahead = body ++ rest)
    (reached : TagBody delimiters mark takesFormat name format body rest) :
    cursor.tag? delimiters mark takesFormat =
      (cursor.past body rest).close delimiters.closing (name, format) := by
  cases reached with
  | parts opens writable blank before ends =>
    rename_i opening blanks formatted
    simp only [List.append_assoc] at ahead
    have stops : Stops Text.isBlank (formatted ++ rest) := by
      cases before.spelled with
      | absent => exact before.stops
      | given => simp [show Text.isBlank ':' = false by decide]
    rw [tag?_named solid ahead opens writable ends blank stops,
      formatOf_eq (ahead_past _ _ _) before]
    simp [past_past]

theorem tag?_governed (solid : SolidMark mark) :
    (tagRule delimiters mark takesFormat).Governs (tag? · delimiters mark takesFormat) where
  read_of := by
    rintro cursor ⟨name, format⟩ word rest ahead ⟨body, rfl, reached⟩
    rw [List.append_assoc] at ahead
    rw [tag?_body solid ahead reached, close_eq (ahead_past _ _ _), past_past]
  fault_of := by
    intro cursor kind details word rest ahead fails
    cases fails with
    | name opens stops fails =>
      rw [List.append_assoc] at ahead
      rw [tag?, tagOpening?_eq ahead opens solid stops]
      simp only []
      rw [name?_governed.fault_of (ahead_past _ _ _) fails, past_past]
    | noName opens stops noName =>
      rw [tag?, tagOpening?_eq ahead opens solid stops]
      simp only []
      rw [name?_eq_none_iff.mpr noName]
    | format takes opens writable blank fails =>
      rename_i name opening blanks colon
      have begins : ∃ text, colon = ':' :: text := by cases fails <;> exact ⟨_, rfl⟩
      obtain ⟨text, rfl⟩ := begins
      simp only [List.append_assoc] at ahead
      have stops : Stops Text.isBlank (':' :: text ++ rest) := by
        simp [show Text.isBlank ':' = false by decide]
      have ends : name.EndsBefore (blanks ++ (':' :: text ++ rest)) :=
        .inr (stops_isNameChar_blanks blank (by simp [show isNameChar ':' = false by decide]))
      rw [tag?_named solid ahead opens writable ends blank stops, takes,
        formatOf_fault (ahead_past _ _ _) fails]
      simp [past_past]
    | closing reached missing =>
      rw [tag?_body solid ahead reached, close_fault missing]
  covers := by
    intro cursor
    cases opened : cursor.tagOpening? delimiters mark with
    | none => exact .inl (by rw [tag?, opened])
    | some behind =>
      refine .inr ?_
      obtain ⟨opening, text, ahead, rfl, opens, stops⟩ := exists_of_tagOpening? opened
      rcases name?_governed.covers (cursor.past opening text) with
        absent | ⟨name, word, rest, aheadName, rfl, writable, ends⟩ |
          ⟨kind, details, word, rest, aheadName, fails⟩
      · exact .inr ⟨_, _, opening, text, ahead, .noName opens stops (name?_eq_none_iff.mp absent)⟩
      · rw [ahead_past] at aheadName
        subst aheadName
        obtain ⟨blanks, behind, rfl, blank, stopsBehind⟩ := exists_blanks rest
        rcases exists_format takesFormat stopsBehind with
          ⟨format, formatted, final, rfl, before⟩ |
            ⟨takes, kind, details, formatted, final, rfl, fails⟩
        · have reached : TagBody delimiters mark takesFormat name format
              (opening ++ (name.toString.toList ++ (blanks ++ formatted))) final :=
            .parts opens writable blank before ends
          by_cases present : delimiters.closing <+: final
          · obtain ⟨rest, rfl⟩ := present
            exact .inl ⟨(name, format), _, rest, by simp [ahead], _, rfl, reached⟩
          · exact .inr ⟨_, _, _, final, by simp [ahead], .closing reached present⟩
        · exact .inr ⟨kind, details, _, final, by simp [ahead],
            .format takes opens writable blank fails⟩
      · rw [ahead_past] at aheadName
        subst aheadName
        exact .inr ⟨kind, details, opening ++ word, rest, by simp [ahead], .name opens stops fails⟩

end Cursor

end Stencil
