/-
This file cuts the text of a template into items.

An item is a run of literal text, a tag or an instruction, each in the order in which the
text has them. The delimiters in force are those of the last instruction that chose any,
whatever sections have been opened or closed since. A closing tag is looked for inside a
section only; outside of all sections its mark begins no name, and the tag is at fault.
Literal text goes on to the next opening delimiter, so an item is never empty and the
cutting ends.
-/

import Stencil.Tag

namespace Stencil

/-- One piece of the text of a template. -/
inductive Item where
  /-- Literal text. -/
  | text (content : String)
  /-- A tag that inserts a value. -/
  | insert (name : Name) (format : Option String)
  /-- A tag that opens a section. -/
  | opened (name : Name) (inverted : Bool)
  /-- A tag that closes a section. -/
  | closed (name : Name)
  /-- An instruction that sets the format of a type. -/
  | setFormat (typeName format : String)
  /-- An instruction that chooses the delimiters of all that follows. -/
  | redelimited (delimiters : Delimiters)
  deriving DecidableEq, Repr

namespace Item

/-- The delimiters that are in force behind an item. -/
def delimitersAfter (delimiters : Delimiters) : Item → Delimiters
  | redelimited chosen => chosen
  | _ => delimiters

/-- The number of sections that are open behind an item. -/
def depthAfter (depth : Nat) : Item → Nat
  | opened _ _ => depth + 1
  | closed _ => depth - 1
  | _ => depth

end Item

namespace Cursor

/-! ### The productions -/

/-- A tag that closes a section. -/
def closingTag? (cursor : Cursor) (delimiters : Delimiters) : Reading Item :=
  (cursor.tag? delimiters (some '/') false).map fun (name, _) => .closed name

/-- An instruction to the reader of the template. -/
def instruction? (cursor : Cursor) (delimiters : Delimiters) : Reading Item :=
  match cursor.accept? delimiters.instructionOpening with
  | none => .ok none
  | some opened =>
    match opened.skipBlanks.formatDirective? with
    | .error fault => .error fault
    | .ok (some ((typeName, format), next)) =>
      next.skipBlanks.close delimiters.instructionClosing (.setFormat typeName format)
    | .ok none =>
      match opened.skipBlanks.delimiterDirective with
      | .error fault => .error fault
      | .ok (chosen, next) => next.close delimiters.instructionClosing (.redelimited chosen)

/-- A tag that opens a section, or one that opens an inverted section. -/
def openingTag? (cursor : Cursor) (delimiters : Delimiters) : Reading Item :=
  ((cursor.tag? delimiters (some '#') false).map fun (name, _) => .opened name false).orElse
    fun _ => (cursor.tag? delimiters (some '^') false).map fun (name, _) => .opened name true

/-- A tag that inserts a value. -/
def insertTag? (cursor : Cursor) (delimiters : Delimiters) : Reading Item :=
  (cursor.tag? delimiters none true).map fun (name, format) => .insert name format

/-- Literal text up to the next opening delimiter or the end of the template. -/
def literalText? (cursor : Cursor) (delimiters : Delimiters) : Reading Item :=
  match textBefore delimiters.opening cursor.ahead with
  | [] => .ok none
  | first :: more =>
    let read := first :: more
    .ok (some (.text (String.ofList read), cursor.past read (cursor.ahead.drop read.length)))

/-- The next item, where a closing tag is looked for inside a section only. It is absent at
the end of the template. -/
def item? (cursor : Cursor) (delimiters : Delimiters) (inside : Bool) : Reading Item :=
  (if inside then cursor.closingTag? delimiters else .ok none).orElse fun _ =>
  (cursor.instruction? delimiters).orElse fun _ =>
  (cursor.openingTag? delimiters).orElse fun _ =>
  (cursor.insertTag? delimiters).orElse fun _ =>
  cursor.literalText? delimiters

end Cursor

/-! ### Every item moves the cursor on -/

/-- A production moves on when the cursor behind it has less ahead than the one before. -/
def Reading.MovesFrom {α : Type} (reading : Reading α) (cursor : Cursor) : Prop :=
  ∀ value next, reading = .ok (some (value, next)) → next.ahead.length < cursor.ahead.length

namespace Reading.MovesFrom

variable {α β : Type} {cursor : Cursor}

theorem absent : Reading.MovesFrom (α := α) (.ok none) cursor := nofun

theorem fault (error : ParseError) : Reading.MovesFrom (α := α) (.error error) cursor := nofun

theorem map {reading : Reading α} (moves : reading.MovesFrom cursor) (change : α → β) :
    (reading.map change).MovesFrom cursor := by
  intro value next read
  match reading, moves, read with
  | .ok (some (before, after)), moves, read =>
    simp only [Reading.map] at read
    cases read
    exact moves _ _ rfl
  | .ok none, _, read => cases read
  | .error _, _, read => cases read

theorem orElse {first : Reading α} {second : Unit → Reading α}
    (movesFirst : first.MovesFrom cursor) (movesSecond : (second ()).MovesFrom cursor) :
    (first.orElse second).MovesFrom cursor := by
  match first, movesFirst with
  | .ok none, _ => exact movesSecond
  | .ok (some _), moves => exact moves
  | .error _, _ => nofun

end Reading.MovesFrom

namespace Cursor

/-- A text that is accepted leaves no more ahead than there was, and less if it is not empty. -/
theorem accept?_length {cursor next : Cursor} {literal : List Char}
    (accepted : cursor.accept? literal = some next) :
    next.ahead.length + literal.length = cursor.ahead.length := by
  obtain ⟨rest, ahead, rfl⟩ := accept?_eq_some accepted
  simp [ahead, Nat.add_comm]

theorem close_movesFrom {α : Type} {cursor : Cursor} {closing : List Char} {value : α}
    (present : closing ≠ []) : (cursor.close closing value).MovesFrom cursor := by
  intro result next read
  unfold close at read
  split at read
  · cases read
  · rename_i accepted
    cases read
    have lengths := accept?_length accepted
    have positive := List.length_pos_iff.mpr present
    omega

theorem moreSegments_length_le {cursor next : Cursor} {segments : List String}
    (read : cursor.moreSegments = .ok (segments, next)) :
    next.ahead.length ≤ cursor.ahead.length := by
  fun_induction moreSegments cursor generalizing segments next with
  | case1 => cases read; exact Nat.le_refl _
  | case2 => cases read
  | case3 => cases read
  | case4 cursor behindDot accepted segment afterSegment readSegment rest final readRest
      inductionHypothesis =>
    cases read
    have lengths := accept?_length accepted
    have shorter := identifier?_length_lt readSegment
    have := inductionHypothesis readRest
    omega

theorem name?_movesFrom (cursor : Cursor) : cursor.name?.MovesFrom cursor := by
  intro name next read
  unfold name? at read
  split at read
  · rename_i accepted
    cases read
    have lengths := accept?_length accepted
    simp only [List.length_singleton] at lengths
    omega
  · split at read
    · cases read
    · rename_i readSegment
      have shorter := identifier?_length_lt readSegment
      split at read
      · cases read
      · rename_i readRest
        cases read
        have := moreSegments_length_le readRest
        omega

theorem readQuoted_length {text : List Char} {quoted : QuotedText}
    (read : readQuoted text = some quoted) : quoted.spelling ++ quoted.rest = text := by
  fun_induction readQuoted text generalizing quoted with
  | case1 => cases read
  | case2 => cases read; simp_all
  | case3 => cases read
  | case4 escaped rest inductionHypothesis =>
    obtain ⟨inner, readInner, rfl⟩ := Option.map_eq_some_iff.mp read
    simp_all
  | case5 =>
    obtain ⟨inner, readInner, rfl⟩ := Option.map_eq_some_iff.mp read
    simp_all

theorem quoted?_movesFrom (cursor : Cursor) : cursor.quoted?.MovesFrom cursor := by
  intro content next read
  unfold quoted? at read
  split at read
  · cases read
  · rename_i ahead
    split at read
    · split at read
      · rename_i readRest
        cases read
        have spelled := congrArg List.length (readQuoted_length readRest)
        simp only [List.length_append] at spelled
        simp only [ahead_past, ahead, List.length_cons]
        omega
      · cases read
    · cases read

theorem tagOpening?_length_lt {cursor next : Cursor} {delimiters : Delimiters}
    {mark : Option Char} (opened : cursor.tagOpening? delimiters mark = some next) :
    next.ahead.length < cursor.ahead.length := by
  have positive := List.length_pos_iff.mpr delimiters.opening_ne_nil
  unfold tagOpening? at opened
  split at opened
  · cases opened
  · rename_i behindOpening accepted
    have lengths := accept?_length accepted
    have := skipBlanks_length_le behindOpening
    split at opened
    · cases opened
      omega
    · obtain ⟨behindMark, acceptedMark, rfl⟩ := Option.map_eq_some_iff.mp opened
      have := accept?_length acceptedMark
      have := skipBlanks_length_le behindMark
      omega

theorem tagFormat_length_le {cursor next : Cursor} {format : Option String}
    (read : cursor.tagFormat = .ok (format, next)) : next.ahead.length ≤ cursor.ahead.length := by
  unfold tagFormat at read
  split at read
  · cases read
    exact Nat.le_refl _
  · rename_i behindColon accepted
    have := accept?_length accepted
    have := skipBlanks_length_le behindColon
    split at read
    · cases read
    · cases read
    · rename_i text behindText readText
      cases read
      have := quoted?_movesFrom _ _ _ readText
      have := skipBlanks_length_le behindText
      omega

theorem tag?_movesFrom (cursor : Cursor) (delimiters : Delimiters) (mark : Option Char)
    (takesFormat : Bool) : (cursor.tag? delimiters mark takesFormat).MovesFrom cursor := by
  intro value next read
  unfold tag? at read
  split at read
  · cases read
  · rename_i opened readOpening
    have := tagOpening?_length_lt readOpening
    split at read
    · cases read
    · cases read
    · rename_i name behindName readName
      have := name?_movesFrom _ _ _ readName
      have := skipBlanks_length_le behindName
      split at read
      · split at read
        · cases read
        · rename_i readFormat
          have := tagFormat_length_le readFormat
          have := close_movesFrom delimiters.closing_ne_nil _ _ read
          omega
      · have := close_movesFrom delimiters.closing_ne_nil _ _ read
        omega

theorem formatDirective?_movesFrom (cursor : Cursor) :
    cursor.formatDirective?.MovesFrom cursor := by
  unfold formatDirective?
  split
  · exact .absent
  · rename_i behindName readName
    have := identifier?_length_lt readName
    have := skipBlanks_length_le behindName
    split
    · exact .absent
    · rename_i behindColon accepted
      have := accept?_length accepted
      have := skipBlanks_length_le behindColon
      refine Reading.MovesFrom.map (fun value next read => ?_) _
      have := quoted?_movesFrom _ _ _ read
      omega

theorem definition?_length_lt {cursor next : Cursor} {text : { text : List Char // text ≠ [] }}
    (read : cursor.definition? = some (text, next)) :
    next.ahead.length < cursor.ahead.length := by
  have lengths := cursor.run_length isDefinitionChar
  unfold definition? at read
  split at read
  · cases read
  · rename_i ran
    cases read
    simp only [ran, List.length_cons] at lengths
    omega

theorem delimiterDirective_length_lt {cursor next : Cursor} {chosen : Delimiters}
    (read : cursor.delimiterDirective = .ok (chosen, next)) :
    next.ahead.length < cursor.ahead.length := by
  unfold delimiterDirective at read
  split at read
  · cases read
  · rename_i opening behindOpening readOpening
    have := definition?_length_lt readOpening
    have := skipBlanks_length_le behindOpening
    split at read
    · cases read
    · rename_i closing behindClosing readClosing
      cases read
      have := definition?_length_lt readClosing
      have := skipBlanks_length_le behindClosing
      omega

theorem instruction?_movesFrom (cursor : Cursor) (delimiters : Delimiters) :
    (cursor.instruction? delimiters).MovesFrom cursor := by
  have present : delimiters.instructionClosing ≠ [] := by simp [Delimiters.instructionClosing]
  unfold instruction?
  split
  · exact .absent
  · rename_i opened accepted
    have := accept?_length accepted
    have := skipBlanks_length_le opened
    split
    · exact .fault _
    · rename_i typeName format next readDirective
      have := formatDirective?_movesFrom _ _ _ readDirective
      have := skipBlanks_length_le next
      intro value final read
      have := close_movesFrom present _ _ read
      omega
    · split
      · exact .fault _
      · rename_i chosen next readDirective
        have := delimiterDirective_length_lt readDirective
        intro value final read
        have := close_movesFrom present _ _ read
        omega

theorem textBefore_append_drop (literal text : List Char) :
    textBefore literal text ++ text.drop (textBefore literal text).length = text := by
  induction text with
  | nil => rfl
  | cons character rest inductionHypothesis =>
    unfold textBefore
    split
    · rfl
    · simp [inductionHypothesis]

theorem literalText?_movesFrom (cursor : Cursor) (delimiters : Delimiters) :
    (cursor.literalText? delimiters).MovesFrom cursor := by
  intro value next read
  have lengths := congrArg List.length (textBefore_append_drop delimiters.opening cursor.ahead)
  unfold literalText? at read
  split at read
  · cases read
  · rename_i found
    cases read
    simp only [found, List.length_append, List.length_cons] at lengths
    simp only [ahead_past, List.length_cons]
    omega

theorem item?_movesFrom (cursor : Cursor) (delimiters : Delimiters) (inside : Bool) :
    (cursor.item? delimiters inside).MovesFrom cursor := by
  unfold item?
  refine .orElse ?_ (.orElse (instruction?_movesFrom _ _) (.orElse (.orElse ?_ ?_)
    (.orElse ?_ (literalText?_movesFrom _ _))))
  · split
    · exact (tag?_movesFrom _ _ _ _).map _
    · exact .absent
  · exact (tag?_movesFrom _ _ _ _).map _
  · exact (tag?_movesFrom _ _ _ _).map _
  · exact (tag?_movesFrom _ _ _ _).map _

end Cursor

/-! ### The items of a text -/

/-- An item with the positions before and behind it. -/
structure PlacedItem where
  item : Item
  start : Position
  stop : Position
  deriving DecidableEq, Repr

/-- The items of a text, and how the cutting ended: at the end of the text, whose position
is kept, or at a fault. -/
structure Itemized where
  items : List PlacedItem
  ending : Except ParseError Position
  deriving Repr

namespace Cursor

/-- Cuts the text ahead into items. The depth is the number of sections that are open. -/
def itemize (cursor : Cursor) (delimiters : Delimiters) (depth : Nat) : Itemized :=
  match _read : cursor.item? delimiters (decide (0 < depth)) with
  | .error fault => { items := [], ending := .error fault }
  | .ok none => { items := [], ending := .ok cursor.position }
  | .ok (some (item, next)) =>
    let rest := next.itemize (item.delimitersAfter delimiters) (item.depthAfter depth)
    { rest with
      items := { item, start := cursor.position, stop := next.position } :: rest.items }
  termination_by cursor.ahead.length
  decreasing_by exact item?_movesFrom _ _ _ _ _ _read

end Cursor

end Stencil
