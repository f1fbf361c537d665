/-
This file tells the productions as programs that share one cursor.

A production looks ahead with a clone of the shared cursor and moves that one only by committing the
clone to it; what it raises, it raises in the state that it has left so far. The delimiters in force
are shared, too, and an instruction that chooses others sets them behind its commit. Nothing keeps a
program from committing too early or from setting the delimiters in front of a fault. But each one
turns out to do what its production does as a function of the cursor: where this is absent or at
fault the program has left everything as it was, and where it is read the program has moved the
cursor behind it.
-/

import Stencil.Compile
import Stencil.Proofs.Nesting

namespace Stencil

/-! ### Programs -/

/-- What productions share: the cursor, and the delimiters in force. -/
structure Shared where
  cursor : Cursor
  delimiters : Delimiters

/-- Something that is done with the shared cursor. What it has done before a fault stays done. -/
abbrev Program (α : Type) := EStateM ParseError Shared α

namespace Program

variable {α β : Type}

/-- Moves the shared cursor to the place of a clone. -/
def commit (place : Cursor) : Program Unit := modify ({ · with cursor := place })

/-- Raises the fault of a reader, or goes on with what it has read. -/
def ofExcept : Except ParseError α → Program α
  | .error fault => throw fault
  | .ok value => return value

/-- Has a clone at a place for the shared cursor while a program is done, and gives the place that
the clone is at behind it. -/
def onClone (place : Cursor) (program : Program α) : Program (α × Cursor) := fun shared =>
  match program { shared with cursor := place } with
  | .ok value behind => .ok (value, behind.cursor) { behind with cursor := shared.cursor }
  | .error fault behind => .error fault { behind with cursor := shared.cursor }

/-- Commits a clone behind the text that closes a tag or an instruction; its absence is a fault. -/
def closeAt (place : Cursor) (closing : List Char) (value : α) : Program (Option α) := do
  let some behind := place.accept? closing
    | throw (place.fault .expectedClosing [String.ofList closing])
  commit behind
  return some value

/-- A tag: its opening, a name, a format if the tag may have one, and the closing delimiter. -/
def tag (mark : Option Char) (takesFormat : Bool) : Program (Option (Name × Option String)) := do
  let shared ← get
  let some opened := shared.cursor.tagOpening? shared.delimiters mark | return none
  let some (name, behindName) ← ofExcept opened.name? | throw (opened.fault .expectedName)
  let place := behindName.skipBlanks
  let (format, place) ← if takesFormat then ofExcept place.tagFormat else pure (none, place)
  closeAt place shared.delimiters.closing (name, format)

/-- A tag that opens a section, or one that opens an inverted section. -/
def sectionStart : Program (Option Item) := do
  if let some (name, _) ← tag (some '#') false then return some (.opened name false)
  if let some (name, _) ← tag (some '^') false then return some (.opened name true)
  return none

/-- The words of an instruction that sets the format of a type. -/
def formatDirective : Program (Option (String × String)) := do
  let shared ← get
  let some (typeName, behindName) := shared.cursor.identifier? | return none
  let some behindColon := behindName.skipBlanks.accept? [':'] | return none
  let some (format, behind) ← ofExcept behindColon.skipBlanks.quoted? | return none
  commit behind
  return some (typeName, format)

/-- An instruction. The words that set a format are read with the clone of the instruction. -/
def instruction : Program (Option Item) := do
  let shared ← get
  let some opened := shared.cursor.accept? shared.delimiters.instructionOpening | return none
  let (directive, behind) ← onClone opened.skipBlanks formatDirective
  if let some (typeName, format) := directive then
    return ← closeAt behind.skipBlanks shared.delimiters.instructionClosing
      (.setFormat typeName format)
  let (chosen, behind) ← ofExcept behind.delimiterDirective
  let read ← closeAt behind shared.delimiters.instructionClosing (.redelimited chosen)
  modify ({ · with delimiters := chosen })
  return read

/-- Literal text up to the next opening delimiter or the end of the template. -/
def literalText : Program (Option Item) := do
  let { cursor, delimiters } ← get
  let count := (distanceTo? delimiters.opening cursor.ahead).getD cursor.ahead.length
  if count = 0 then return none
  let (read, behind) := cursor.advance count
  commit behind
  return some (.text (String.ofList read))

/-- The next item, if it closes no section. -/
def itemOutside : Program (Option Item) := do
  if let some read ← instruction then return some read
  if let some read ← sectionStart then return some read
  if let some (name, format) ← tag none true then return some (.insert name format)
  literalText

/-- The next item, where a closing tag is looked for inside a section only. -/
def item (inside : Bool) : Program (Option Item) := do
  if inside then
    if let some (name, _) ← tag (some '/') false then return some (.closed name)
  itemOutside

end Program

/-! ### What programs leave behind -/

/-- What a production as a function of the cursor leaves behind: the shared state as it was, unless
it is read. Then the cursor is behind it, and the delimiters are those that it chooses, if any. -/
def Reading.behind {α : Type} (chosen? : α → Option Delimiters) (shared : Shared) :
    Reading α → EStateM.Result ParseError Shared (Option α)
  | .error fault => .error fault shared
  | .ok none => .ok none shared
  | .ok (some (value, next)) =>
    .ok (some value) { cursor := next, delimiters := (chosen? value).getD shared.delimiters }

namespace Reading

variable {α : Type} {reading : Reading α} {chosen? : α → Option Delimiters}
  {shared after : Shared}

theorem map_id (reading : Reading α) : reading.map id = reading := by
  rcases reading with fault | - | read <;> rfl

theorem behind_eq_absent_iff :
    reading.behind chosen? shared = .ok none after ↔ reading = .ok none ∧ after = shared := by
  rcases reading with fault | - | read <;> simp [behind, eq_comm]

theorem behind_eq_error_iff {fault : ParseError} :
    reading.behind chosen? shared = .error fault after ↔
      reading = .error fault ∧ after = shared := by
  rcases reading with fault | - | read <;> simp [behind, eq_comm]

theorem behind_eq_read_iff {value : α} :
    reading.behind chosen? shared = .ok (some value) after ↔
      ∃ next, reading = .ok (some (value, next)) ∧
        after = { cursor := next, delimiters := (chosen? value).getD shared.delimiters } := by
  rcases reading with fault | - | ⟨found, next⟩
  · simp [behind]
  · simp [behind]
  · constructor
    · rintro ⟨⟩
      exact ⟨next, rfl, rfl⟩
    · rintro ⟨_, ⟨⟩, rfl⟩
      rfl

end Reading

namespace Program

variable {α β : Type} {shared : Shared}

theorem get_bind (next : Shared → Program β) :
    (get >>= next : Program β) shared = next shared shared := rfl

theorem ofExcept_ok_bind (value : α) (next : α → Program β) :
    (ofExcept (.ok value) >>= next : Program β) shared = next value shared := rfl

theorem closeAt_eq (place : Cursor) (closing : List Char) (value : α) (shared : Shared) :
    closeAt place closing value shared =
      (place.close closing value).behind (fun _ => none) shared := by
  rw [closeAt, Cursor.close]
  cases place.accept? closing <;> rfl

theorem tag_eq (mark : Option Char) (takesFormat : Bool) (shared : Shared) :
    tag mark takesFormat shared =
      (shared.cursor.tag? shared.delimiters mark takesFormat).behind (fun _ => none) shared := by
  rw [tag, Cursor.tag?, get_bind]
  cases shared.cursor.tagOpening? shared.delimiters mark with
  | none => rfl
  | some opened =>
    dsimp only
    cases opened.name? with
    | error fault => rfl
    | ok read =>
      rw [ofExcept_ok_bind]
      rcases read with - | ⟨name, behindName⟩
      · rfl
      cases takesFormat with
      | false => exact closeAt_eq _ _ _ _
      | true =>
        dsimp only
        rw [if_pos rfl, if_pos rfl]
        cases behindName.skipBlanks.tagFormat with
        | error fault => rfl
        | ok formatted => exact closeAt_eq _ _ _ _

/-- A program that tries another one where it is absent does what the first production does, or
else the second. -/
theorem orElse_eq {program : Program (Option α)} {next : Option α → Program (Option β)}
    {first : Reading α} {second : Reading β} {change : α → β} {before? : α → Option Delimiters}
    {chosen? : β → Option Delimiters} (same : program shared = first.behind before? shared)
    (read : ∀ value, next (some value) = pure (some (change value)))
    (kept : ∀ value, chosen? (change value) = before? value)
    (absent : next none shared = second.behind chosen? shared) :
    (program >>= next) shared =
      ((first.map change).orElse fun _ => second).behind chosen? shared := by
  show EStateM.bind program next shared = _
  rw [EStateM.bind, same]
  rcases first with fault | - | ⟨value, behind⟩
  · rfl
  · exact absent
  · show next (some value) _ = EStateM.Result.ok (some (change value))
      { cursor := behind, delimiters := (chosen? (change value)).getD shared.delimiters }
    rw [read, kept]
    rfl

theorem sectionStart_eq (shared : Shared) :
    sectionStart shared =
      (shared.cursor.openingTag? shared.delimiters).behind Item.chosen? shared := by
  refine orElse_eq (tag_eq _ _ shared) (fun _ => rfl) (fun _ => rfl) ?_
  show EStateM.bind (tag (some '^') false) _ shared = _
  rw [EStateM.bind, tag_eq]
  rcases shared.cursor.tag? shared.delimiters (some '^') false with fault | - | read
  · rfl
  · rfl
  · rfl

theorem formatDirective_eq (shared : Shared) :
    formatDirective shared = shared.cursor.formatDirective?.behind (fun _ => none) shared := by
  rw [formatDirective, Cursor.formatDirective?, get_bind]
  rcases shared.cursor.identifier? with - | ⟨typeName, behindName⟩
  · rfl
  dsimp only
  rcases behindName.skipBlanks.accept? [':'] with - | behindColon
  · rfl
  dsimp only
  rcases behindColon.skipBlanks.quoted? with fault | - | ⟨format, behind⟩
  · rfl
  · rfl
  · rfl

theorem instruction_eq (shared : Shared) :
    instruction shared =
      (shared.cursor.instruction? shared.delimiters).behind Item.chosen? shared := by
  rw [instruction, Cursor.instruction?, get_bind]
  rcases shared.cursor.accept? shared.delimiters.instructionOpening with - | opened
  · rfl
  dsimp only
  have directive := formatDirective_eq { shared with cursor := opened.skipBlanks }
  show EStateM.bind (onClone opened.skipBlanks formatDirective) _ shared = _
  rw [EStateM.bind, onClone, directive]
  dsimp only
  rcases opened.skipBlanks.formatDirective? with fault | - | ⟨⟨typeName, format⟩, behind⟩
  · rfl
  · dsimp only [Reading.behind]
    rcases opened.skipBlanks.delimiterDirective with fault | ⟨chosen, behind⟩
    · rfl
    · dsimp only
      rw [Cursor.close]
      show EStateM.bind (closeAt behind _ _) _ shared = _
      rw [EStateM.bind, closeAt_eq, Cursor.close]
      rcases behind.accept? shared.delimiters.instructionClosing with - | closed
      · rfl
      · rfl
  · dsimp only [Reading.behind]
    show closeAt behind.skipBlanks _ _ shared = _
    rw [closeAt_eq, Cursor.close]
    rcases behind.skipBlanks.accept? shared.delimiters.instructionClosing with - | closed
    · rfl
    · rfl

theorem take_distanceTo? (literal text : List Char) :
    text.take ((distanceTo? literal text).getD text.length) = textBefore literal text := by
  induction text with
  | nil => exact List.take_nil
  | cons character rest inductionHypothesis =>
    rw [distanceTo?, textBefore]
    by_cases begins : literal.isPrefixOf (character :: rest) = true
    · rw [if_pos begins, if_pos begins]
      rfl
    · rw [if_neg begins, if_neg begins, ← inductionHypothesis]
      cases distanceTo? literal rest <;> rfl

theorem literalText_eq (shared : Shared) :
    literalText shared =
      (shared.cursor.literalText? shared.delimiters).behind Item.chosen? shared := by
  obtain ⟨cursor, delimiters⟩ := shared
  rw [literalText, Cursor.literalText?, get_bind]
  dsimp only
  have taken := take_distanceTo? delimiters.opening cursor.ahead
  have split := Cursor.textBefore_append_drop delimiters.opening cursor.ahead
  by_cases none : (distanceTo? delimiters.opening cursor.ahead).getD cursor.ahead.length = 0
  · rw [none, List.take_zero] at taken
    rw [if_pos none, ← taken]
    rfl
  · have present : textBefore delimiters.opening cursor.ahead ≠ [] := by
      rw [← taken, Ne, List.take_eq_nil_iff]
      rintro (zero | ended)
      · exact none zero
      · refine none ?_
        rw [ended]
        cases delimiters.opening <;> rfl
    obtain ⟨first, more, found⟩ := List.exists_cons_of_ne_nil present
    rw [found] at taken split
    rw [if_neg none, found, Cursor.advance, taken]
    have rest : cursor.ahead.drop
        ((distanceTo? delimiters.opening cursor.ahead).getD cursor.ahead.length) =
          cursor.ahead.drop (first :: more).length := by
      refine (List.append_right_inj (first :: more)).mp ?_
      rw [split, ← taken, List.take_append_drop]
    rw [rest]
    rfl

theorem itemOutside_eq (shared : Shared) :
    itemOutside shared =
      (((shared.cursor.instruction? shared.delimiters).orElse fun _ =>
        (shared.cursor.openingTag? shared.delimiters).orElse fun _ =>
        (shared.cursor.insertTag? shared.delimiters).orElse fun _ =>
        shared.cursor.literalText? shared.delimiters).behind Item.chosen? shared) := by
  rw [← (shared.cursor.instruction? shared.delimiters).map_id,
    ← (shared.cursor.openingTag? shared.delimiters).map_id]
  refine orElse_eq (instruction_eq shared) (fun _ => rfl) (fun _ => rfl) ?_
  refine orElse_eq (sectionStart_eq shared) (fun _ => rfl) (fun _ => rfl) ?_
  exact orElse_eq (tag_eq none true shared) (fun _ => rfl) (fun _ => rfl) (literalText_eq shared)

/-- The next item is read as by the function of the cursor. -/
theorem item_eq (inside : Bool) (shared : Shared) :
    item inside shared =
      (shared.cursor.item? shared.delimiters inside).behind Item.chosen? shared := by
  cases inside with
  | false => exact itemOutside_eq shared
  | true =>
    exact orElse_eq (tag_eq _ _ shared) (fun _ => rfl) (fun _ => rfl) (itemOutside_eq shared)

end Program

end Stencil
