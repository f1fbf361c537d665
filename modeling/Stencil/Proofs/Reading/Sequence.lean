/-
This file proves which sequence of items a text is cut into.

A sequence of items is read when each of them is read by its rule, with the delimiters and the
depth that those before it leave behind, and when each is placed where the one before it ends.
Every text begins with such a sequence, and goes on to its end or to a fault; the cutting of a
text that begins with a sequence is the sequence, and then the cutting of the rest.
-/

import Stencil.Proofs.Reading.Item

namespace Stencil

/-! ### Sequences -/

/-- The delimiters in force behind a sequence of items. -/
def delimitersBehind (delimiters : Delimiters) (items : List PlacedItem) : Delimiters :=
  items.foldl (fun chosen placed => placed.item.delimitersAfter chosen) delimiters

/-- The number of sections that are open behind a sequence of items. -/
def depthBehind (depth : Nat) (items : List PlacedItem) : Nat :=
  items.foldl (fun reached placed => placed.item.depthAfter reached) depth

/-- A sequence of items is read in front of a rest: the first one at the given position, with
the given delimiters and inside as many sections as given. -/
inductive SequenceReads (rest : List Char) :
    Position → Delimiters → Nat → List PlacedItem → List Char → Prop where
  | nil {position : Position} {delimiters : Delimiters} {depth : Nat} :
      SequenceReads rest position delimiters depth [] []
  | cons {position : Position} {delimiters : Delimiters} {depth : Nat} {item : Item}
      {items : List PlacedItem} {word text : List Char}
      (reads : ItemReads delimiters (decide (0 < depth)) item word (text ++ rest))
      (more : SequenceReads rest (position.after word) (item.delimitersAfter delimiters)
        (item.depthAfter depth) items text) :
      SequenceReads rest position delimiters depth
        ({ item, start := position, stop := position.after word } :: items) (word ++ text)

/-- A cutting that begins with some items more. -/
def Itemized.behind (items : List PlacedItem) (itemized : Itemized) : Itemized :=
  { itemized with items := items ++ itemized.items }

/-! ### Cutting -/

namespace Cursor

variable {cursor : Cursor} {delimiters : Delimiters} {depth : Nat}

theorem itemize_eq (cursor : Cursor) (delimiters : Delimiters) (depth : Nat) :
    cursor.itemize delimiters depth =
      match cursor.item? delimiters (decide (0 < depth)) with
      | .error fault => { items := [], ending := .error fault }
      | .ok none => { items := [], ending := .ok cursor.position }
      | .ok (some (item, next)) =>
        .behind [{ item, start := cursor.position, stop := next.position }]
          (next.itemize (item.delimitersAfter delimiters) (item.depthAfter depth)) := by
  rw [itemize]
  split <;> rename_i answer <;> rw [answer]
  rfl

/-- An item that is read comes first, and the cutting goes on behind it. -/
theorem itemize_read {item : Item} {word rest : List Char} (ahead : cursor.ahead = word ++ rest)
    (reads : ItemReads delimiters (decide (0 < depth)) item word rest) :
    cursor.itemize delimiters depth =
      .behind [{ item, start := cursor.position, stop := cursor.position.after word }]
        ((cursor.past word rest).itemize (item.delimitersAfter delimiters)
          (item.depthAfter depth)) := by
  rw [itemize_eq, item?_governed.read_of ahead reads]
  rfl

/-- A fault ends the cutting. -/
theorem itemize_fault {kind : ParseErrorKind} {details : List String} {word rest : List Char}
    (ahead : cursor.ahead = word ++ rest)
    (fails : ItemFails delimiters (decide (0 < depth)) kind details word rest) :
    cursor.itemize delimiters depth =
      { items := [], ending := .error ((cursor.past word rest).fault kind details) } := by
  rw [itemize_eq, item?_governed.fault_of ahead fails]

/-- The end of the text ends the cutting. -/
theorem itemize_end (ended : cursor.ahead = []) :
    cursor.itemize delimiters depth = { items := [], ending := .ok cursor.position } := by
  rw [itemize_eq, item?_end ended]

/-- A sequence that is read comes first, and the cutting goes on behind it. -/
theorem itemize_sequence {items : List PlacedItem} {text rest : List Char}
    (ahead : cursor.ahead = text ++ rest)
    (reads : SequenceReads rest cursor.position delimiters depth items text) :
    cursor.itemize delimiters depth =
      .behind items ((cursor.past text rest).itemize (delimitersBehind delimiters items)
        (depthBehind depth items)) := by
  generalize placed : cursor.position = position at reads
  induction reads generalizing cursor with
  | nil =>
    rw [List.nil_append] at ahead
    rw [← ahead, past_nil_ahead]
    rfl
  | cons reads more inductionHypothesis =>
    rw [List.append_assoc] at ahead
    rw [itemize_read ahead reads, placed,
      inductionHypothesis (ahead_past _ _ _) (by rw [position_past, placed]), past_past]
    rfl

/-- What holds at the end of a text and at a fault, and in front of an item where it holds behind
the item, holds of every cutting. -/
@[elab_as_elim]
theorem itemize_induction {motive : Cursor → Delimiters → Nat → Prop}
    (ended : ∀ cursor delimiters depth, cursor.ahead = [] → motive cursor delimiters depth)
    (failed : ∀ cursor delimiters depth kind details word rest, cursor.ahead = word ++ rest →
      ItemFails delimiters (decide (0 < depth)) kind details word rest →
        motive cursor delimiters depth)
    (read : ∀ cursor delimiters depth item word rest, cursor.ahead = word ++ rest →
      ItemReads delimiters (decide (0 < depth)) item word rest →
      motive (cursor.past word rest) (item.delimitersAfter delimiters) (item.depthAfter depth) →
        motive cursor delimiters depth)
    (cursor : Cursor) (delimiters : Delimiters) (depth : Nat) :
    motive cursor delimiters depth := by
  generalize bound : cursor.ahead.length = count
  induction count using Nat.strongRecOn generalizing cursor delimiters depth with
  | ind count inductionHypothesis =>
    by_cases present : cursor.ahead = []
    · exact ended cursor delimiters depth present
    rcases exists_item cursor delimiters (decide (0 < depth)) present with
      ⟨item, word, rest, ahead, reads⟩ | ⟨kind, details, word, rest, ahead, fails⟩
    · have shorter := item?_movesFrom _ _ _ _ _ (item?_governed.read_of ahead reads)
      exact read _ _ _ _ _ _ ahead reads
        (inductionHypothesis _ (bound ▸ shorter) (cursor.past word rest) _ _ rfl)
    · exact failed _ _ _ _ _ _ _ ahead fails

/-- Every text is a sequence of items up to its end or up to a fault. -/
theorem exists_sequence (cursor : Cursor) (delimiters : Delimiters) (depth : Nat) :
    ∃ text rest, cursor.ahead = text ++ rest ∧
      SequenceReads rest cursor.position delimiters depth
        (cursor.itemize delimiters depth).items text ∧
      ((rest = [] ∧ (cursor.itemize delimiters depth).ending = .ok (cursor.past text []).position) ∨
        ∃ kind details word tail, rest = word ++ tail ∧
          ItemFails
            (delimitersBehind delimiters (cursor.itemize delimiters depth).items)
            (decide (0 < depthBehind depth (cursor.itemize delimiters depth).items))
            kind details word tail ∧
          (cursor.itemize delimiters depth).ending =
            .error ((cursor.past (text ++ word) tail).fault kind details)) := by
  induction cursor, delimiters, depth using itemize_induction with
  | ended cursor delimiters depth ended =>
    rw [itemize_end ended]
    exact ⟨[], [], ended, .nil, .inl ⟨rfl, rfl⟩⟩
  | failed cursor delimiters depth kind details word tail ahead fails =>
    rw [itemize_fault ahead fails]
    exact ⟨[], cursor.ahead, rfl, .nil, .inr ⟨kind, details, word, tail, ahead, fails, rfl⟩⟩
  | read cursor delimiters depth item word behind ahead reads inductionHypothesis =>
    obtain ⟨text, rest, split, more, ending⟩ := inductionHypothesis
    rw [ahead_past] at split
    subst split
    rw [itemize_read ahead reads]
    refine ⟨word ++ text, rest, by rw [ahead, List.append_assoc], .cons reads more, ?_⟩
    rcases ending with ⟨rfl, ending⟩ | ⟨kind, details, faulty, tail, rfl, fails, ending⟩
    · rw [past_past] at ending
      exact .inl ⟨rfl, ending⟩
    · rw [past_past] at ending
      refine .inr ⟨kind, details, faulty, tail, rfl, fails, ?_⟩
      rw [List.append_assoc]
      exact ending

/-- A text that is cut up to its end is a sequence of items. -/
theorem sequenceReads_of_ending {final : Position}
    (ending : (cursor.itemize delimiters depth).ending = .ok final) :
    SequenceReads [] cursor.position delimiters depth (cursor.itemize delimiters depth).items
      cursor.ahead := by
  obtain ⟨text, rest, ahead, reads, ⟨rfl, -⟩ | ⟨_, _, _, _, -, -, failed⟩⟩ :=
    exists_sequence cursor delimiters depth
  · rw [List.append_nil] at ahead
    rwa [ahead]
  · rw [failed] at ending
    cases ending

end Cursor

end Stencil
