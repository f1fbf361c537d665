/-
This file proves that compiling is compositional in the text.

A text that stands behind another one is cut and put together as it is alone, with the
delimiters in force that the first text leaves, with its trees behind those of the first text,
and with every position moved by the first text. Only a first text that ends in literal text is
no such text, because what is behind it may go on with it. An instruction that chooses
delimiters is a first text of its own, so what is behind it compiles as with these delimiters.
-/

import Stencil.Proofs.Nesting
import Stencil.Proofs.Reading.Boundary

namespace Stencil

/-! ### Positions behind a text -/

namespace Position

/-- A position in a text, where the text stands behind another one: further down by the lines of
the other text, and on the first line further on by the column in which the other text ends. -/
def behind (text : List Char) (position : Position) : Position where
  line := position.line + text.count '\n'
  column :=
    if position.line = 1 then (start.after text).column + position.column else position.column

theorem behind_start (text : List Char) : start.behind text = start.after text := by
  have line := line_after start text
  have same : (start.behind text).line = (start.after text).line := line.symm
  have column : (start.behind text).column = (start.after text).column := by
    simp [behind, start]
  cases behind : start.behind text
  cases after : start.after text
  simp_all

theorem step_behind {position : Position} (first : 1 ≤ position.line) (text : List Char)
    (character : Char) :
    (position.behind text).step character = (position.step character).behind text := by
  unfold step
  split
  · have below : position.line + 1 ≠ 1 := by omega
    simp only [behind, if_neg below, mk.injEq, and_true]
    omega
  · simp only [behind, mk.injEq, true_and]
    split
    · exact Int.add_assoc _ _ _
    · rfl

theorem after_behind {position : Position} (first : 1 ≤ position.line) (text word : List Char) :
    (position.behind text).after word = (position.after word).behind text := by
  induction word generalizing position with
  | nil => rfl
  | cons character word inductionHypothesis =>
    have further : 1 ≤ (position.step character).line := by
      have line : (position.step character).line = position.line + [character].count '\n' :=
        line_after position [character]
      omega
    rw [after_cons, after_cons, step_behind first, inductionHypothesis further]

end Position

/-- A fault of a text, where the text stands behind another one. -/
def ParseError.behind (text : List Char) (fault : ParseError) : ParseError :=
  { fault with position := fault.position.behind text }

/-- An item of a text, where the text stands behind another one. -/
def PlacedItem.behind (text : List Char) (placed : PlacedItem) : PlacedItem where
  item := placed.item
  start := placed.start.behind text
  stop := placed.stop.behind text

/-- How the cutting of a text ends, where the text stands behind another one. -/
def endingBehind (text : List Char) : Except ParseError Position → Except ParseError Position
  | .error fault => .error (fault.behind text)
  | .ok position => .ok (position.behind text)

/-- What a text comes to where it stands behind another one: its trees behind those of the other
text, or its fault at the moved position. -/
def outcomeBehind (text : List Char) (tokens : List Token) :
    Except ParseError (List Token) → Except ParseError (List Token)
  | .error fault => .error (fault.behind text)
  | .ok more => .ok (tokens ++ more)

/-! ### Cutting a text behind another one -/

/-- A text is cut into the same items wherever it stands, at moved positions. -/
theorem Cursor.itemize_behind {cursor other : Cursor} {text : List Char}
    (delimiters : Delimiters) (depth : Nat) (same : other.ahead = cursor.ahead)
    (first : 1 ≤ cursor.position.line)
    (moved : other.position = cursor.position.behind text) :
    (other.itemize delimiters depth).items =
        (cursor.itemize delimiters depth).items.map (PlacedItem.behind text) ∧
      (other.itemize delimiters depth).ending =
        endingBehind text (cursor.itemize delimiters depth).ending := by
  induction cursor, delimiters, depth using itemize_induction generalizing other with
  | ended cursor delimiters depth ended =>
    rw [itemize_end ended, itemize_end (same.trans ended), moved]
    exact ⟨rfl, rfl⟩
  | failed cursor delimiters depth kind details word rest ahead fails =>
    rw [itemize_fault ahead fails, itemize_fault (same.trans ahead) fails]
    refine ⟨rfl, ?_⟩
    simp only [endingBehind, ParseError.behind, Cursor.fault, position_past, moved,
      Position.after_behind first]
  | read cursor delimiters depth item word rest ahead reads inductionHypothesis =>
    have further : 1 ≤ (cursor.past word rest).position.line := by
      rw [position_past, Position.line_after]
      omega
    have movedFurther : (other.past word rest).position =
        (cursor.past word rest).position.behind text := by
      rw [position_past, position_past, moved, Position.after_behind first]
    have sameRest : (other.past word rest).ahead = (cursor.past word rest).ahead := rfl
    obtain ⟨items, ending⟩ := inductionHypothesis sameRest further movedFurther
    rw [itemize_read ahead reads, itemize_read (same.trans ahead) reads]
    refine ⟨?_, ending⟩
    simp only [Itemized.behind, List.cons_append, List.nil_append, List.map_cons, items, moved,
      Position.after_behind first]
    rfl

/-! ### Putting a text together behind another one -/

/-- Open sections and trees, and the same with some trees more at the bottom, in front of all of
them. -/
inductive Stacked (bottom : List Token) :
    List Token → List OpenSection → List Token → List OpenSection → Prop where
  | ground {level : List Token} : Stacked bottom level [] (level ++ bottom) []
  | inner {name : Name} {inverted : Bool} {level before below : List Token}
      {around beneath : List OpenSection} (outer : Stacked bottom before around below beneath) :
      Stacked bottom level ({ name, inverted, before } :: around) level
        ({ name, inverted, before := below } :: beneath)

theorem Stacked.add {bottom level lower : List Token} {around beneath : List OpenSection}
    (stacked : Stacked bottom level around lower beneath) (token : Token) :
    Stacked bottom (token :: level) around (token :: lower) beneath := by
  cases stacked with
  | ground => exact .ground
  | inner outer => exact .inner outer

namespace Assembly

/-- An assembly has the open sections and trees of another one, behind some trees. -/
def Onto (bottom : List Token) (alone assembly : Assembly) : Prop :=
  Stacked bottom alone.level alone.around assembly.level assembly.around

/-- Behind other trees an item is taken as it is without them. -/
theorem take_behind {bottom : List Token} {alone assembly : Assembly}
    (onto : Onto bottom alone assembly) (text : List Char) (placed : PlacedItem) :
    (∃ fault, alone.take placed = .error fault ∧
      assembly.take (placed.behind text) = .error (fault.behind text)) ∨
    ∃ next further, alone.take placed = .ok next ∧
      assembly.take (placed.behind text) = .ok further ∧ Onto bottom next further := by
  obtain ⟨item, start, stop⟩ := placed
  cases item with
  | text content => exact .inr ⟨_, _, rfl, rfl, onto.add _⟩
  | insert name format => exact .inr ⟨_, _, rfl, rfl, onto.add _⟩
  | setFormat typeName format => exact .inr ⟨_, _, rfl, rfl, onto.add _⟩
  | redelimited chosen => exact .inr ⟨_, _, rfl, rfl, onto⟩
  | opened name inverted => exact .inr ⟨_, _, rfl, rfl, .inner onto⟩
  | closed name =>
    obtain ⟨delimiters, level, around, changes⟩ := alone
    obtain ⟨delimiters', level', around', changes'⟩ := assembly
    cases onto with
    | ground => exact .inl ⟨_, rfl, rfl⟩
    | inner outer =>
      rename_i opened inverted before below around beneath
      by_cases same : name = opened
      · refine .inr ⟨_, _, if_pos same, if_pos same, ?_⟩
        exact outer.add _
      · exact .inl ⟨_, if_neg same, if_neg same⟩

/-- Behind other trees all items come to what they come to without them. -/
theorem outcome_takeAll_behind {bottom : List Token} {alone assembly : Assembly}
    (onto : Onto bottom alone assembly) (text : List Char) (ending : Except ParseError Position)
    (items : List PlacedItem) :
    (assembly.takeAll (endingBehind text ending) (items.map (PlacedItem.behind text))).outcome =
      outcomeBehind text bottom.reverse (alone.takeAll ending items).outcome := by
  induction items generalizing alone assembly with
  | nil =>
    obtain ⟨delimiters, level, around, changes⟩ := alone
    obtain ⟨delimiters', level', around', changes'⟩ := assembly
    cases ending with
    | error fault => rfl
    | ok position =>
      cases onto with
      | ground => simp [takeAll, finish, endingBehind, outcomeBehind]
      | inner outer => rfl
  | cons placed items inductionHypothesis =>
    rw [List.map_cons, takeAll, takeAll]
    rcases take_behind onto text placed with
      ⟨fault, taken, takenBehind⟩ | ⟨next, further, taken, takenBehind, ontoNext⟩
    · rw [taken, takenBehind]
      rfl
    · rw [taken, takenBehind]
      exact inductionHypothesis ontoNext

/-- Behind items that are all taken, the others come to what they come to from there. -/
theorem outcome_takeAll_append {assembly middle : Assembly} {items : List PlacedItem}
    (taken : items.foldlM take assembly = .ok middle) (ending : Except ParseError Position)
    (more : List PlacedItem) :
    (assembly.takeAll ending (items ++ more)).outcome = (middle.takeAll ending more).outcome := by
  rw [outcome_takeAll, outcome_takeAll, List.foldlM_append, taken]
  rfl

/-- The sections that are open behind items are as many as the items leave open. -/
theorem depthBehind_foldlM {assembly final : Assembly} {items : List PlacedItem}
    (taken : items.foldlM take assembly = .ok final) :
    depthBehind assembly.around.length items = final.around.length := by
  induction items generalizing assembly with
  | nil =>
    cases taken
    rfl
  | cons placed items inductionHypothesis =>
    obtain ⟨next, step, taken⟩ := foldlM_take_cons_iff.mp taken
    rw [← inductionHypothesis taken, length_around_take step]
    rfl

end Assembly

/-! ### Compiling a text behind another one -/

/-- Where no section is open, a text that stands behind another one comes to what it compiles
to, behind the trees that are there. -/
theorem outcome_itemize_behind {cursor : Cursor} {first : List Char} {second : String}
    {delimiters : Delimiters} {assembly : Assembly} (ahead : cursor.ahead = second.toList)
    (placed : cursor.position = Position.start.after first) (closed : assembly.around = []) :
    (assembly.takeAll (cursor.itemize delimiters 0).ending
        (cursor.itemize delimiters 0).items).outcome =
      outcomeBehind first assembly.level.reverse (compile delimiters second).outcome := by
  have same : cursor.ahead = (Cursor.ofText second.toList).ahead := ahead
  obtain ⟨items, ending⟩ := Cursor.itemize_behind delimiters 0 same (Int.le_refl 1)
    (placed.trans (Position.behind_start first).symm)
  have onto : Assembly.Onto assembly.level { delimiters } assembly := by
    rw [Assembly.Onto, closed]
    exact .ground
  rw [items, ending]
  exact Assembly.outcome_takeAll_behind onto first _ _

/-- A text that compiles and does not end in literal text, followed by another one, compiles as
the other one does with the delimiters that are in force at its end: to the trees of both, or to
the fault of the other one at the moved position. -/
theorem compile_append {delimiters : Delimiters} {first second : String} {tokens : List Token}
    (compiled : (compile delimiters first).outcome = .ok tokens)
    (last : ∀ placed ∈ ((Cursor.ofText first.toList).itemize delimiters 0).items.getLast?,
      placed.item.isText = false) :
    (compile delimiters (first ++ second)).outcome =
      outcomeBehind first.toList tokens
        (compile (delimitersBehind delimiters
          ((Cursor.ofText first.toList).itemize delimiters 0).items) second).outcome := by
  obtain ⟨final, taken, ⟨position, ending⟩, closed, rfl⟩ :=
    Assembly.outcome_takeAll_eq_ok_iff.mp compiled
  have reads := (Cursor.sequenceReads_of_ending ending).behind last second.toList
  have depth := Assembly.depthBehind_foldlM taken
  rw [closed] at depth
  have ahead : (Cursor.ofText (first ++ second).toList).ahead = first.toList ++ second.toList :=
    String.toList_append
  have cut := Cursor.itemize_sequence ahead reads
  rw [show depthBehind 0 _ = 0 from depth] at cut
  rw [compile, cut]
  exact (Assembly.outcome_takeAll_append taken _ _).trans
    (outcome_itemize_behind rfl rfl closed)

/-- The instruction that chooses delimiters, with one blank between them. -/
def Delimiters.redelimiting (delimiters chosen : Delimiters) : List Char :=
  delimiters.opening ++ '=' :: (chosen.opening ++ ' ' :: (chosen.closing ++ '=' ::
    delimiters.closing))

theorem redelimiting_reads {delimiters chosen : Delimiters} {rest : List Char} {inside : Bool}
    (definesOpening : IsDefinition chosen.opening) (definesClosing : IsDefinition chosen.closing)
    (noDirective : ¬ BeginsDirective (chosen.opening ++ ' ' :: (chosen.closing ++ '=' ::
      (delimiters.closing ++ rest)))) :
    ItemReads delimiters inside (.redelimited chosen) (delimiters.redelimiting chosen) rest := by
  have blank : Blanks [' '] := by decide
  have chooses : DelimiterWords chosen (chosen.opening ++ ([' '] ++ (chosen.closing ++ [])))
      (delimiters.instructionClosing ++ rest) := by
    refine .parts definesOpening blank (List.cons_ne_nil _ _) definesClosing blanks_nil ?_ ?_
    · simp [Delimiters.instructionClosing, show isDefinitionChar '=' = false by decide]
    · simp [Delimiters.instructionClosing, show Text.isBlank '=' = false by decide]
  refine .instruction ⟨_, ?_, .redelimited blanks_nil ?_ chooses⟩
  · simp [Delimiters.redelimiting, Delimiters.instructionOpening, Delimiters.instructionClosing]
  · simpa [Delimiters.instructionClosing] using noDirective

/-- Behind an instruction that chooses delimiters, a text compiles as with these delimiters,
unless the text behind the equals sign begins like an instruction that sets a format. -/
theorem compile_redelimiting {delimiters chosen : Delimiters} {second : String}
    (definesOpening : IsDefinition chosen.opening) (definesClosing : IsDefinition chosen.closing)
    (noDirective : ¬ BeginsDirective (chosen.opening ++ ' ' :: (chosen.closing ++ '=' ::
      (delimiters.closing ++ second.toList)))) :
    (compile delimiters (String.ofList (delimiters.redelimiting chosen) ++ second)).outcome =
      outcomeBehind (delimiters.redelimiting chosen) [] (compile chosen second).outcome := by
  have reads : ItemReads delimiters (decide (0 < 0)) (.redelimited chosen)
      (delimiters.redelimiting chosen) second.toList :=
    redelimiting_reads definesOpening definesClosing noDirective
  have ahead :
      (Cursor.ofText (String.ofList (delimiters.redelimiting chosen) ++ second).toList).ahead =
        delimiters.redelimiting chosen ++ second.toList := by
    rw [Cursor.ofText, String.toList_append, String.toList_ofList]
  rw [compile, Cursor.itemize_read ahead reads]
  have taken (start stop : Position) :
      [{ item := .redelimited chosen, start, stop : PlacedItem }].foldlM Assembly.take
        { delimiters } = .ok _ := rfl
  exact (Assembly.outcome_takeAll_append (taken _ _) _ _).trans
    (outcome_itemize_behind rfl rfl rfl)

/-- Compiling is compositional in the text. -/
theorem compile_composes (delimiters : Delimiters) (second : String) :
    (∀ (first : String) (tokens : List Token),
      (compile delimiters first).outcome = .ok tokens →
      (∀ placed ∈ ((Cursor.ofText first.toList).itemize delimiters 0).items.getLast?,
        placed.item.isText = false) →
      (compile delimiters (first ++ second)).outcome =
        outcomeBehind first.toList tokens
          (compile (delimitersBehind delimiters
            ((Cursor.ofText first.toList).itemize delimiters 0).items) second).outcome) ∧
    ∀ chosen : Delimiters, IsDefinition chosen.opening → IsDefinition chosen.closing →
      ¬ BeginsDirective (chosen.opening ++ ' ' :: (chosen.closing ++ '=' ::
        (delimiters.closing ++ second.toList))) →
      (compile delimiters (String.ofList (delimiters.redelimiting chosen) ++ second)).outcome =
        outcomeBehind (delimiters.redelimiting chosen) [] (compile chosen second).outcome :=
  ⟨fun _ _ => compile_append, fun _ => compile_redelimiting⟩

theorem compile_composes_redelimited :
    (compile .standard ("\x7b\x7b=(\n)=\x7d\x7d(.)" ++ "b(.")).outcome =
        .error {
          kind := .expectedClosing
          position := { line := 2, column := 10 }
          details := [")"] } ∧
      (compile .standard (String.ofList (Delimiters.standard.redelimiting
        { opening := ['('], closing := [')'] }) ++ "(.)")).outcome = .ok [.insert .self none] := by
  constructor
  · have last :
        ((Cursor.ofText "\x7b\x7b=(\n)=\x7d\x7d(.)".toList).itemize .standard 0).items.getLast? =
          some {
            item := .insert .self none
            start := { line := 2, column := 4 }
            stop := { line := 2, column := 7 } } := by with_unfolding_all rfl
    refine ((compile_composes .standard "b(.").1 _ [.insert .self none]
      (by with_unfolding_all rfl) ?_).trans (by with_unfolding_all rfl)
    rw [last]
    rintro _ ⟨⟩
    rfl
  · have absent : (Cursor.ofText "( )=\x7d\x7d(.)".toList).formatDirective? = .ok none := by
      with_unfolding_all rfl
    exact ((compile_composes .standard "(.)").2 { opening := ['('], closing := [')'] }
      (by decide) (by decide) (Cursor.formatDirective?_eq_none_iff.mp absent)).trans
      (by with_unfolding_all rfl)

end Stencil
