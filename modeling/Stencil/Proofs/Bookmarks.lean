/-
This file proves that the cursors of a family are offsets into their text and nothing more.

A cursor holds the text that is still ahead, an index and a position, and its actions keep the
three together, each in its own way. Beside a family stands a list of bookmarks, which are plain
offsets into the whole text; what an action answers at an offset is read off the text, and it
moves the bookmark of the cursor that acts and no other. A family of bookmarks shows itself as a
family of cursors, every one at its offset with the line and the column of that place. An action
on what bookmarks show is shown by the action on the bookmarks, and so is a run of actions of any
length, whichever cursors act in it.
-/

import Mathlib.Data.List.Forall2
import Mathlib.Order.Bounds.Basic
import Stencil.Cursor.Family
import Stencil.Proofs.Offset

namespace Stencil

/-! ### Runs of a family -/

namespace CursorFamily

/-- Lets the cursor of a number act. Where there is no such cursor nothing happens. -/
def perform (family : CursorFamily) (number : Nat) (action : CursorAction) :
    CursorAnswer × CursorFamily :=
  match family.cursor? number with
  | none => (.none, family)
  | some cursor => family.act number cursor action

/-- The answers of actions, each by the cursor of a number, and the family behind them. -/
def run (family : CursorFamily) : List (Nat × CursorAction) → List CursorAnswer × CursorFamily
  | [] => ([], family)
  | (number, action) :: rest =>
    let performed := family.perform number action
    let behind := performed.2.run rest
    (performed.1 :: behind.1, behind.2)

/-! ### Actions leave the other cursors alone -/

theorem cursor?_move_of_ne (family : CursorFamily) {number other : Nat} (apart : other ≠ number)
    (cursor : Cursor) : (family.move number cursor).cursor? other = family.cursor? other :=
  List.getElem?_set_ne (Ne.symm apart)

theorem cursor?_read_of_ne (family : CursorFamily) {number other : Nat} (apart : other ≠ number)
    (cursor : Cursor) (outcome : CursorAnswer × Cursor) :
    (family.read number cursor outcome).2.cursor? other = family.cursor? other := by
  unfold read
  split
  · rfl
  · exact family.cursor?_move_of_ne apart _

/-- The cursors of a family stay where they are while another one acts. -/
theorem cursor?_perform_of_ne (family : CursorFamily) {number other : Nat} (apart : other ≠ number)
    (present : other < family.cursors.length) (action : CursorAction) :
    (family.perform number action).2.cursor? other = family.cursor? other := by
  unfold perform
  split
  · rfl
  rename_i cursor _
  cases action with
  | next | peek | skip => exact family.cursor?_read_of_ne apart _ _
  | advance count =>
    rw [act]
    split
    · rfl
    · exact family.cursor?_read_of_ne apart _ _
  | matchLiteral literal =>
    rw [act]
    split
    · rfl
    · exact family.cursor?_read_of_ne apart _ _
  | find literal =>
    rw [act]
    split <;> rfl
  | clone => exact List.getElem?_append_left present
  | commit place =>
    rw [act]
    split
    · rfl
    · exact family.cursor?_move_of_ne apart _
  | describe => rfl

theorem exists_cursor? {family : CursorFamily} {number : Nat}
    (present : number < family.cursors.length) : ∃ cursor, family.cursor? number = some cursor :=
  ⟨family.cursors[number], List.getElem?_eq_getElem present⟩

/-- A cursor that commits to another one stands where that one stands. -/
theorem cursor?_perform_commit {family : CursorFamily} {number other : Nat} {cursor place : Cursor}
    (acting : family.cursor? number = some cursor) (given : family.cursor? other = some place) :
    (family.perform number (.commit other)).2.cursor? number = some place := by
  have present : number < family.cursors.length := (List.getElem?_eq_some_iff.mp acting).1
  simp only [perform, acting, act, given]
  exact List.getElem?_set_self present

end CursorFamily

/-! ### Bookmarks -/

/-- The places of a text from an offset on at which a literal begins, the first one of them. -/
def firstPlace? (text literal : List Char) (offset : Nat) : Option Nat :=
  (List.range' offset (text.length + 1 - offset)).find? fun place =>
    literal.isPrefixOf (text.drop place)

/-- What an action answers at an offset of a text, and the offset behind it. -/
def answerAt (text : List Char) (offset : Nat) : CursorAction → CursorAnswer × Nat
  | .next =>
    match text[offset]? with
    | none => (.none, offset)
    | some character => (.text [character], offset + 1)
  | .peek =>
    match text[offset]? with
    | none => (.none, offset)
    | some character => (.text [character], offset)
  | .advance count =>
    let read := (text.drop offset).take count.toNat
    (.text read, offset + read.length)
  | .matchLiteral literal =>
    if literal ≠ [] ∧ literal <+: text.drop offset then (.truth true, offset + literal.length)
    else (.truth false, offset)
  | .find literal =>
    match firstPlace? text literal offset with
    | none => (.notFound, offset)
    | some place => (.index place, offset)
  | .skip => (.none, offset + ((text.drop offset).takeWhile Text.isBlank).length)
  | .describe =>
    (.text ("Source(index=" ++ toString offset ++ ", position=" ++
      (Position.ofOffset text offset).toString ++ ")").toList, offset)
  | .clone | .commit _ => (.none, offset)

/-- Offsets into a text, in the order in which they were marked. -/
structure Bookmarks where
  text : List Char
  offsets : List Nat
  deriving DecidableEq, Repr

namespace Bookmarks

/-- One bookmark at the start of a text. -/
def ofText (text : List Char) : Bookmarks where
  text := text
  offsets := [0]

/-- The bookmarks with one of them moved. -/
def move (marks : Bookmarks) (number place : Nat) : Bookmarks :=
  { marks with offsets := marks.offsets.set number place }

/-- Lets the bookmark of a number act. A clone is one more bookmark, and a bookmark that commits to
another one takes its offset. -/
def perform (marks : Bookmarks) (number : Nat) (action : CursorAction) :
    CursorAnswer × Bookmarks :=
  match marks.offsets[number]? with
  | none => (.none, marks)
  | some offset =>
    match action with
    | .clone =>
      (.index marks.offsets.length, { marks with offsets := marks.offsets ++ [offset] })
    | .commit other => (.none, marks.move number (marks.offsets[other]?.getD offset))
    | action =>
      ((answerAt marks.text offset action).1,
        marks.move number (answerAt marks.text offset action).2)

/-- The answers of actions, each by the bookmark of a number, and the bookmarks behind them. -/
def run (marks : Bookmarks) : List (Nat × CursorAction) → List CursorAnswer × Bookmarks
  | [] => ([], marks)
  | (number, action) :: rest =>
    let performed := marks.perform number action
    let behind := performed.2.run rest
    (performed.1 :: behind.1, behind.2)

end Bookmarks

/-! ### Cursors at an offset -/

/-- The cursor that stands at an offset of a text. -/
def cursorAt (text : List Char) (offset : Nat) : Cursor where
  ahead := text.drop offset
  index := offset
  position := Position.ofOffset text offset

/-- Reading on from an offset leads to the offset that is as much further on. -/
theorem past_cursorAt {text read rest : List Char} {offset : Nat}
    (ahead : text.drop offset = read ++ rest) :
    (cursorAt text offset).past read rest = cursorAt text (offset + read.length) := by
  have before : text.take (offset + read.length) = text.take offset ++ read := by
    rw [List.take_add, ahead, List.take_left]
  have behind : text.drop (offset + read.length) = rest := by
    rw [← List.drop_drop, ahead, List.drop_left]
  rw [cursorAt, cursorAt, Cursor.past, behind, Position.ofOffset_eq_after,
    Position.ofOffset_eq_after, before, Position.after_append]
  simp

theorem offset_add_le {text read rest : List Char} {offset : Nat} (inside : offset ≤ text.length)
    (ahead : text.drop offset = read ++ rest) : offset + read.length ≤ text.length := by
  have lengths := congrArg List.length ahead
  rw [List.length_drop, List.length_append] at lengths
  omega

theorem peek?_cursorAt (text : List Char) (offset : Nat) :
    (cursorAt text offset).peek? = text[offset]? := List.head?_drop

theorem next?_cursorAt (text : List Char) (offset : Nat) :
    (cursorAt text offset).next? =
      text[offset]?.map fun character => (character, cursorAt text (offset + 1)) := by
  have ahead : (cursorAt text offset).ahead = text.drop offset := rfl
  rw [Cursor.next?, ahead, ← List.head?_drop]
  cases given : text.drop offset with
  | nil => rfl
  | cons character rest =>
    simp only [List.head?_cons, Option.map_some]
    rw [past_cursorAt (show text.drop offset = [character] ++ rest from given)]
    rfl

theorem advance_cursorAt (text : List Char) (offset count : Nat) :
    (cursorAt text offset).advance count =
      ((text.drop offset).take count,
        cursorAt text (offset + ((text.drop offset).take count).length)) := by
  rw [← past_cursorAt (List.take_append_drop count (text.drop offset)).symm]
  rfl

theorem skipBlanks_cursorAt (text : List Char) (offset : Nat) :
    (cursorAt text offset).skipBlanks =
      cursorAt text (offset + ((text.drop offset).takeWhile Text.isBlank).length) := by
  rw [← past_cursorAt List.takeWhile_append_dropWhile.symm]
  rfl

/-! ### Searching -/

/-- The distance to a literal, counted on from where the search begins, is its first place. -/
theorem distanceTo?_eq_find? (literal whole : List Char) {text : List Char} {start : Nat}
    (ahead : whole.drop start = text) :
    (distanceTo? literal text).map (start + ·) =
      (List.range' start (text.length + 1)).find? fun place =>
        literal.isPrefixOf (whole.drop place) := by
  induction text generalizing start with
  | nil =>
    cases literal with
    | nil => simp [distanceTo?, List.range']
    | cons first rest => simp [distanceTo?, List.range', ahead]
  | cons character text inductionHypothesis =>
    have next : whole.drop (start + 1) = text := by
      rw [← List.drop_drop, ahead, List.drop_one, List.tail_cons]
    rw [List.length_cons, List.range'_succ, List.find?_cons, ahead, distanceTo?]
    split
    · rename_i here
      rw [here]
      simp
    · rename_i absent
      rw [Bool.not_eq_true _ |>.mp absent, ← inductionHypothesis next]
      cases distanceTo? literal text with
      | none => rfl
      | some distance => simp [Nat.add_assoc, Nat.add_comm 1]

theorem lt_length_of_begins {text literal : List Char} {place : Nat} (solid : literal ≠ [])
    (begins : literal <+: text.drop place) : place < text.length := by
  by_contra beyond
  rw [List.drop_of_length_le (Nat.le_of_not_lt beyond), List.prefix_nil] at begins
  exact solid begins

/-- The first place is the least one, from the offset on, at which the literal begins. -/
theorem firstPlace?_eq_some_iff {text literal : List Char} (solid : literal ≠ [])
    {offset place : Nat} :
    firstPlace? text literal offset = some place ↔
      IsLeast {place | offset ≤ place ∧ literal <+: text.drop place} place := by
  rw [firstPlace?, List.find?_range'_eq_some, List.mem_range'_1, List.isPrefixOf_iff_prefix]
  simp only [Bool.not_eq_true', Bool.eq_false_iff, ne_eq, List.isPrefixOf_iff_prefix]
  constructor
  · rintro ⟨begins, ⟨further, -⟩, least⟩
    refine ⟨⟨further, begins⟩, fun other ⟨otherFurther, otherBegins⟩ => ?_⟩
    by_contra before
    exact least other otherFurther (Nat.lt_of_not_le before) otherBegins
  · rintro ⟨⟨further, begins⟩, least⟩
    have bound := lt_length_of_begins solid begins
    refine ⟨begins, ⟨further, by omega⟩, fun other otherFurther before otherBegins => ?_⟩
    exact Nat.not_le_of_lt before (least ⟨otherFurther, otherBegins⟩)

/-- There is no first place where the literal begins nowhere from the offset on. -/
theorem firstPlace?_eq_none_iff {text literal : List Char} (solid : literal ≠ [])
    {offset : Nat} :
    firstPlace? text literal offset = none ↔
      ∀ place, offset ≤ place → ¬ literal <+: text.drop place := by
  rw [firstPlace?, List.find?_range'_eq_none]
  simp only [Bool.not_eq_true', Bool.eq_false_iff, ne_eq, List.isPrefixOf_iff_prefix]
  refine ⟨fun absent place further begins => ?_, fun absent place further _ => absent place further⟩
  have bound := lt_length_of_begins solid begins
  exact absent place further (by omega) begins

namespace Bookmarks

/-! ### What bookmarks show -/

/-- The family of cursors that stand at the offsets. -/
def family (marks : Bookmarks) : CursorFamily where
  text := marks.text
  cursors := marks.offsets.map (cursorAt marks.text)

/-- Every bookmark lies in the text or at its end. -/
def Inside (marks : Bookmarks) : Prop := ∀ offset ∈ marks.offsets, offset ≤ marks.text.length

variable {marks : Bookmarks} {number offset : Nat}

theorem cursor?_family (marks : Bookmarks) (number : Nat) :
    marks.family.cursor? number = marks.offsets[number]?.map (cursorAt marks.text) :=
  List.getElem?_map

theorem family_move (marks : Bookmarks) (number place : Nat) :
    (marks.move number place).family = marks.family.move number (cursorAt marks.text place) := by
  rw [move, family, CursorFamily.move, family, List.map_set]

theorem move_self (given : marks.offsets[number]? = some offset) :
    marks.move number offset = marks := by
  obtain ⟨bound, rfl⟩ := List.getElem?_eq_some_iff.mp given
  rw [move, List.set_getElem_self]

/-- A cursor at an offset is not out of reach, so it reads on. -/
theorem read_cursorAt (marks : Bookmarks) (number offset : Nat) (outcome : CursorAnswer × Nat) :
    marks.family.read number (cursorAt marks.text offset)
        (outcome.1, cursorAt marks.text outcome.2) =
      (outcome.1, (marks.move number outcome.2).family) := by
  have within : marks.family.isOutOfReach (cursorAt marks.text offset) = false := by
    rw [CursorFamily.isOutOfReach, decide_eq_false_iff_not, cursorAt]
    simp only
    omega
  rw [CursorFamily.read, within, if_neg Bool.false_ne_true, family_move]

theorem placeOf_cursorAt (text : List Char) (offset : Nat) :
    CursorFamily.placeOf text (cursorAt text offset).index = offset := by
  have place : (cursorAt text offset).index = offset := rfl
  rw [place, CursorFamily.placeOf, if_neg (by omega), Int.toNat_natCast]

theorem standsAt_cursorAt (marks : Bookmarks) (offset : Nat) (literal : List Char) :
    marks.family.standsAt (cursorAt marks.text offset) literal =
      literal.isPrefixOf (marks.text.drop offset) := by
  show literal.isPrefixOf (marks.text.drop (CursorFamily.placeOf marks.text _)) = _
  rw [placeOf_cursorAt]

theorem find?_cursorAt (inside : offset ≤ marks.text.length) (literal : List Char) :
    marks.family.find? (cursorAt marks.text offset) literal =
      firstPlace? marks.text literal offset := by
  have count : (marks.text.drop offset).length + 1 = marks.text.length + 1 - offset := by
    rw [List.length_drop]
    omega
  have found := distanceTo?_eq_find? literal marks.text (rfl : marks.text.drop offset = _)
  rw [count] at found
  show (if marks.text.length < CursorFamily.placeOf marks.text _ then none else
    (distanceTo? literal (marks.text.drop (CursorFamily.placeOf marks.text _))).map _) = _
  rw [show marks.family.text = marks.text from rfl, placeOf_cursorAt,
    if_neg (Nat.not_lt_of_le inside), found, firstPlace?]

/-! ### Actions -/

/-- A cursor that stands at an offset answers what the offset answers, and is led where it leads. -/
theorem act_cursorAt (given : marks.offsets[number]? = some offset)
    (inside : offset ≤ marks.text.length) {action : CursorAction} (notClone : action ≠ .clone)
    (notCommit : ∀ other, action ≠ .commit other) :
    marks.family.act number (cursorAt marks.text offset) action =
      ((answerAt marks.text offset action).1,
        (marks.move number (answerAt marks.text offset action).2).family) := by
  have stays := move_self given
  have read := marks.read_cursorAt number offset
  cases action with
  | next =>
    rw [← read, CursorFamily.act, next?_cursorAt]
    congr 1
    simp only [answerAt]
    cases marks.text[offset]? <;> rfl
  | peek =>
    rw [← read, CursorFamily.act, peek?_cursorAt]
    congr 1
    simp only [answerAt]
    cases marks.text[offset]? <;> rfl
  | advance count =>
    rw [CursorFamily.act, advance_cursorAt]
    split
    · rename_i none
      rw [answerAt, Int.toNat_of_nonpos none]
      simp [stays]
    · exact read (answerAt marks.text offset (.advance count))
  | matchLiteral literal =>
    have refused : (literal.isEmpty || !literal.isPrefixOf (marks.text.drop offset)) = true ↔
        ¬ (literal ≠ [] ∧ literal <+: marks.text.drop offset) := by
      rw [Bool.or_eq_true, List.isEmpty_iff, Bool.not_eq_true', ← Bool.not_eq_true,
        List.isPrefixOf_iff_prefix, not_and_or, ne_eq, not_not]
    rw [CursorFamily.act, standsAt_cursorAt, answerAt]
    by_cases begins : literal ≠ [] ∧ literal <+: marks.text.drop offset
    · have read := marks.read_cursorAt number offset (.truth true, offset + literal.length)
      rw [if_neg (mt refused.mp (not_not.mpr begins)), if_pos begins, advance_cursorAt,
        ← List.prefix_iff_eq_take.mp begins.2]
      exact read
    · rw [if_pos (refused.mpr begins), if_neg begins, stays]
  | find literal =>
    rw [CursorFamily.act, find?_cursorAt inside, answerAt]
    cases firstPlace? marks.text literal offset <;> simp [stays]
  | skip =>
    rw [CursorFamily.act, skipBlanks_cursorAt]
    exact read (answerAt marks.text offset .skip)
  | clone => exact absurd rfl notClone
  | commit other => exact absurd rfl (notCommit other)
  | describe =>
    rw [answerAt, stays]
    rfl

/-- An action on the cursors that bookmarks show is the action on the bookmarks. -/
theorem perform_family (inside : marks.Inside) (number : Nat) (action : CursorAction) :
    marks.family.perform number action =
      ((marks.perform number action).1, (marks.perform number action).2.family) := by
  rw [CursorFamily.perform, perform, cursor?_family]
  cases given : marks.offsets[number]? with
  | none => rfl
  | some offset =>
    have bound : offset ≤ marks.text.length := inside offset (List.mem_of_getElem? given)
    cases action with
    | clone =>
      simp only [Option.map_some, CursorFamily.act, family, List.map_append, List.length_map,
        List.map_cons, List.map_nil]
    | commit other =>
      simp only [Option.map_some, CursorFamily.act, cursor?_family]
      cases marks.offsets[other]? with
      | none => simp only [Option.map_none, Option.getD_none, move_self given]
      | some place => simp only [Option.map_some, Option.getD_some, family_move]
    | next | peek | advance | matchLiteral | find | skip | describe =>
      exact act_cursorAt given bound nofun nofun

theorem answerAt_le {text : List Char} (inside : offset ≤ text.length) (action : CursorAction) :
    (answerAt text offset action).2 ≤ text.length := by
  cases action with
  | next =>
    rw [answerAt]
    split
    · exact inside
    · rename_i found
      exact (List.getElem?_eq_some_iff.mp found).1
  | peek =>
    rw [answerAt]
    split <;> exact inside
  | advance count =>
    exact offset_add_le inside (List.take_append_drop count.toNat (text.drop offset)).symm
  | matchLiteral literal =>
    rw [answerAt]
    split
    · rename_i begins
      obtain ⟨rest, ahead⟩ := begins.2
      exact offset_add_le inside ahead.symm
    · exact inside
  | find literal =>
    rw [answerAt]
    split <;> exact inside
  | skip => exact offset_add_le inside List.takeWhile_append_dropWhile.symm
  | clone | commit _ | describe => exact inside

theorem text_perform (marks : Bookmarks) (number : Nat) (action : CursorAction) :
    (marks.perform number action).2.text = marks.text := by
  unfold perform
  split
  · rfl
  · cases action <;> rfl

theorem Inside.move (inside : marks.Inside) {place : Nat} (bound : place ≤ marks.text.length)
    (number : Nat) : (marks.move number place).Inside := fun offset member =>
  (List.mem_or_eq_of_mem_set member).elim (inside offset) fun same => same ▸ bound

/-- Bookmarks stay inside the text. -/
theorem Inside.perform (inside : marks.Inside) (number : Nat) (action : CursorAction) :
    (marks.perform number action).2.Inside := by
  unfold Bookmarks.perform
  split
  · exact inside
  rename_i offset given
  have bound : offset ≤ marks.text.length := inside offset (List.mem_of_getElem? given)
  cases action with
  | clone =>
    intro other member
    rcases List.mem_append.mp member with member | isNew
    · exact inside other member
    · exact (List.mem_singleton.mp isNew) ▸ bound
  | commit other =>
    refine inside.move ?_ number
    cases target : marks.offsets[other]? with
    | none => exact bound
    | some place => exact inside place (List.mem_of_getElem? target)
  | next | peek | advance | matchLiteral | find | skip | describe =>
    exact inside.move (answerAt_le bound _) number

/-- A run of the cursors that bookmarks show is the run of the bookmarks, and these stay inside the
text. -/
theorem run_family (inside : marks.Inside) (steps : List (Nat × CursorAction)) :
    marks.family.run steps = ((marks.run steps).1, (marks.run steps).2.family) ∧
      (marks.run steps).2.Inside ∧ (marks.run steps).2.text = marks.text := by
  induction steps generalizing marks with
  | nil => exact ⟨rfl, inside, rfl⟩
  | cons step rest inductionHypothesis =>
    obtain ⟨number, action⟩ := step
    obtain ⟨same, insideBehind, text⟩ := inductionHypothesis (inside.perform number action)
    refine ⟨?_, insideBehind, text.trans (marks.text_perform number action)⟩
    rw [CursorFamily.run, perform_family inside, same]
    rfl

end Bookmarks

/-! ### Families over a text -/

theorem family_ofText (text : List Char) :
    (Bookmarks.ofText text).family = CursorFamily.ofText text := rfl

theorem answerAt_matchLiteral_eq_iff {text literal : List Char} {offset : Nat} {truth : Bool} :
    (answerAt text offset (.matchLiteral literal)).1 = .truth truth ↔
      truth = decide (literal ≠ [] ∧ literal <+: text.drop offset) := by
  rw [answerAt]
  split
  · rename_i begins
    simp [begins, eq_comm]
  · rename_i absent
    simp [absent, eq_comm]

theorem answerAt_find_eq_index_iff {text literal : List Char} {offset place : Nat} :
    (answerAt text offset (.find literal)).1 = .index place ↔
      firstPlace? text literal offset = some place := by
  rw [answerAt]
  cases firstPlace? text literal offset <;> simp

theorem answerAt_find_eq_notFound_iff {text literal : List Char} {offset : Nat} :
    (answerAt text offset (.find literal)).1 = .notFound ↔
      firstPlace? text literal offset = none := by
  rw [answerAt]
  cases firstPlace? text literal offset <;> simp

/-- A cursor stands at an offset of a text: this much is behind it and the rest is ahead, its line
is one more than the number of line feeds behind it, and its column is the number of characters
behind the last of them, or behind the start of the text. -/
structure Cursor.StandsAt (cursor : Cursor) (text : List Char) (offset : Nat) : Prop where
  inside : offset ≤ text.length
  index : cursor.index = offset
  ahead : cursor.ahead = text.drop offset
  line : cursor.position.line = 1 + (text.take offset).count '\n'
  column : cursor.position.column = ((text.take offset).reverse.takeWhile (· ≠ '\n')).length

theorem cursorAt_standsAt {text : List Char} {offset : Nat} (inside : offset ≤ text.length) :
    (cursorAt text offset).StandsAt text offset := ⟨inside, rfl, rfl, rfl, rfl⟩

namespace CursorFamily

/-- Over any run of actions by the cursors of a text, all answers are those of plain offsets, and
every cursor stands at its offset. Behind the run an action still moves the acting cursor alone,
and one that commits to another cursor stands where that one stands. A search answers the least
place, from the offset on, at which matching the literal would succeed. -/
theorem follows_bookmarks (text : List Char) (steps : List (Nat × CursorAction)) :
    let cursors := (ofText text).run steps
    let marks := (Bookmarks.ofText text).run steps
    cursors.1 = marks.1 ∧
    List.Forall₂ (fun cursor offset => cursor.StandsAt text offset)
      cursors.2.cursors marks.2.offsets ∧
    (∀ number other action, other ≠ number → other < cursors.2.cursors.length →
      (cursors.2.perform number action).2.cursor? other = cursors.2.cursor? other) ∧
    (∀ number other cursor place, cursors.2.cursor? number = some cursor →
      cursors.2.cursor? other = some place →
      (cursors.2.perform number (.commit other)).2.cursor? number = some place) ∧
    ∀ literal offset, literal ≠ [] →
      (∀ place, (answerAt text offset (.find literal)).1 = .index place ↔
        IsLeast {place | offset ≤ place ∧
          (answerAt text place (.matchLiteral literal)).1 = .truth true} place) ∧
      ((answerAt text offset (.find literal)).1 = .notFound ↔
        ∀ place, offset ≤ place →
          (answerAt text place (.matchLiteral literal)).1 = .truth false) := by
  intro cursors marks
  have start : (Bookmarks.ofText text).Inside :=
    List.forall_mem_singleton.mpr (Nat.zero_le _)
  obtain ⟨same, inside, whole⟩ := Bookmarks.run_family start steps
  rw [family_ofText] at same
  refine ⟨congrArg Prod.fst same, ?_, fun number other action apart present =>
    cursor?_perform_of_ne _ apart present action, fun number other cursor place acting given =>
    cursor?_perform_commit acting given, fun literal offset solid => ⟨fun place => ?_, ?_⟩⟩
  · rw [show cursors = _ from same]
    show List.Forall₂ _ (List.map (cursorAt _) _) _
    rw [List.forall₂_map_left_iff, List.forall₂_same, whole]
    exact fun offset member => cursorAt_standsAt (whole ▸ inside offset member)
  · rw [answerAt_find_eq_index_iff, firstPlace?_eq_some_iff solid]
    simp [answerAt_matchLiteral_eq_iff, solid]
  · rw [answerAt_find_eq_notFound_iff, firstPlace?_eq_none_iff solid]
    simp [answerAt_matchLiteral_eq_iff, solid]

/-- A clone runs ahead over a line feed, the first cursor reads past the end, commits to the clone
and searches on from there, and both stand in the second line. -/
theorem follows_bookmarks_cloned :
    let text := ['a', '\n', 'b', ' ', ' ', 'c']
    let steps : List (Nat × CursorAction) := [(0, .clone), (1, .matchLiteral ['a', '\n', 'b']),
      (0, .advance 9), (0, .next), (0, .commit 1), (0, .find ['c']), (1, .advance (-1)), (1, .skip)]
    let family := ((ofText text).run steps).2
    ((ofText text).run steps).1 = [.index 1, .truth true, .text text, .none, .none, .index 5,
      .text [], .none] ∧
    List.Forall₂ (fun cursor offset => cursor.StandsAt text offset) family.cursors [3, 5] ∧
    (family.perform 1 .next).2.cursor? 0 = family.cursor? 0 ∧
    (family.perform 0 (.commit 1)).2.cursor? 0 = family.cursor? 1 := by
  intro text steps family
  have marks : (Bookmarks.ofText text).run steps =
      ([.index 1, .truth true, .text text, .none, .none, .index 5, .text [], .none],
        { text, offsets := [3, 5] }) := by decide
  obtain ⟨answers, stand, others, commits, -⟩ := follows_bookmarks text steps
  rw [marks] at answers stand
  have count : ((ofText text).run steps).2.cursors.length = 2 := stand.length_eq
  obtain ⟨cursor, acting⟩ := exists_cursor? (show 0 < _ from count ▸ Nat.zero_lt_two)
  obtain ⟨place, given⟩ := exists_cursor? (show 1 < _ from count ▸ Nat.one_lt_two)
  exact ⟨answers, stand, others 1 0 .next Nat.zero_ne_one (count ▸ Nat.zero_lt_two),
    (commits 0 1 _ _ acting given).trans given.symm⟩

end CursorFamily

end Stencil
