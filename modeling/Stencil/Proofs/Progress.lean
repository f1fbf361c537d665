/-
This file proves that productions keep the discipline of one shared cursor, and that the loop that
compiles a text ends.

A production that is absent or at fault leaves the cursor and the delimiters as they were, however
far its clones have got. One that is read moves the cursor on by at least one character of what is
ahead, and only an instruction that chooses delimiters changes those in force, to two words. So each
turn of the loop that goes on has less ahead than the one before, and behind the last character
there is one turn more, which finds nothing. As an item is absent at the end of a text only, the
loop is left nowhere else; and what it comes to is what the cutting of the text into items and their
assembly come to.
-/

import Stencil.Proofs.Bookmarks
import Stencil.Proofs.Programs
import Stencil.Proofs.Soundness

namespace Stencil

/-! ### Moves -/

namespace Cursor

/-- A cursor gets to another one by reading at least one character of what is ahead. -/
def MovesTo (cursor next : Cursor) : Prop :=
  ∃ word rest, word ≠ [] ∧ cursor.ahead = word ++ rest ∧ next = cursor.past word rest

/-- A cursor of a text that moves on stands at a greater offset, and not beyond the end. -/
theorem MovesTo.exists_offset {text : List Char} {offset : Nat} (inside : offset ≤ text.length)
    {next : Cursor} (moves : (cursorAt text offset).MovesTo next) :
    ∃ place, offset < place ∧ place ≤ text.length ∧ next = cursorAt text place := by
  obtain ⟨word, rest, present, ahead, rfl⟩ := moves
  have positive := List.length_pos_iff.mpr present
  exact ⟨offset + word.length, by omega, offset_add_le inside ahead, past_cursorAt ahead⟩

end Cursor

/-- A production that a rule governs is read where the rule says, and leads behind the word. -/
theorem Rule.Governs.exists_word {α : Type} {rule : Rule α} {production : Cursor → Reading α}
    (governs : rule.Governs production) {cursor next : Cursor} {value : α}
    (read : production cursor = .ok (some (value, next))) :
    ∃ word rest, cursor.ahead = word ++ rest ∧ rule.reads value word rest ∧
      next = cursor.past word rest := by
  rcases governs.covers cursor with
    absent | ⟨_, word, rest, ahead, reads⟩ | ⟨kind, details, word, rest, ahead, fails⟩
  · cases absent.symm.trans read
  · cases (governs.read_of ahead reads).symm.trans read
    exact ⟨word, rest, ahead, reads, rfl⟩
  · cases (governs.fault_of ahead fails).symm.trans read

/-- A production moves a cursor on if it is read there. -/
def Reading.Advances {α : Type} (reading : Reading α) (cursor : Cursor) : Prop :=
  ∀ value next, reading = .ok (some (value, next)) → cursor.MovesTo next

namespace Reading.Advances

variable {α β : Type} {cursor : Cursor}

theorem of_governs {rule : Rule α} {production : Cursor → Reading α}
    (governs : rule.Governs production) (moves : (production cursor).MovesFrom cursor) :
    (production cursor).Advances cursor := by
  intro value next read
  have shorter := moves value next read
  obtain ⟨word, rest, ahead, -, rfl⟩ := governs.exists_word read
  refine ⟨word, rest, ?_, ahead, rfl⟩
  rintro rfl
  rw [ahead] at shorter
  exact Nat.lt_irrefl _ shorter

theorem map {reading : Reading α} (advances : reading.Advances cursor) (change : α → β) :
    (reading.map change).Advances cursor := by
  intro value next read
  rcases reading with fault | - | ⟨before, behind⟩
  · cases read
  · cases read
  · cases read
    exact advances _ _ rfl

theorem orElse {first second : Reading α} (advancesFirst : first.Advances cursor)
    (advancesSecond : second.Advances cursor) :
    (first.orElse fun _ => second).Advances cursor := by
  rcases first with fault | - | read
  · exact nofun
  · exact advancesSecond
  · exact advancesFirst

end Reading.Advances

namespace Cursor

variable (cursor : Cursor) (delimiters : Delimiters)

theorem tag?_advances (mark : Option Char) (takesFormat : Bool) :
    (cursor.tag? delimiters mark takesFormat).Advances cursor := by
  by_cases solid : SolidMark mark
  · exact .of_governs (tag?_governed solid) (tag?_movesFrom cursor _ _ _)
  · -- Blanks are skipped in front of the mark, so a blank one is never found.
    obtain ⟨character, rfl, blank⟩ : ∃ character, mark = some character ∧
        Text.isBlank character = true := by
      simpa [SolidMark] using solid
    have refused : cursor.tagOpening? delimiters (some character) = none := by
      rw [tagOpening?]
      rcases cursor.accept? delimiters.opening with - | opened
      · rfl
      obtain ⟨blanks, rest, ahead, blanksOnly, stops⟩ := exists_blanks opened.ahead
      have absent : (opened.past blanks rest).accept? [character] = none := by
        refine accept?_singleton_eq_none_iff.mpr fun first begins => ?_
        rw [beq_eq_false_iff_ne]
        rintro rfl
        rw [stops _ begins] at blank
        cases blank
      dsimp only
      rw [skipBlanks_eq ahead blanksOnly stops, absent]
      rfl
    intro value next read
    rw [tag?_eq_none_iff.mpr refused] at read
    cases read

theorem openingTag?_advances : (cursor.openingTag? delimiters).Advances cursor :=
  ((cursor.tag?_advances delimiters (some '#') false).map _).orElse
    ((cursor.tag?_advances delimiters (some '^') false).map _)

theorem instruction?_advances : (cursor.instruction? delimiters).Advances cursor :=
  .of_governs instruction?_governed (instruction?_movesFrom cursor _)

theorem formatDirective?_advances : cursor.formatDirective?.Advances cursor :=
  .of_governs formatDirective?_governed (formatDirective?_movesFrom cursor)

theorem literalText?_advances : (cursor.literalText? delimiters).Advances cursor := by
  intro value next read
  have split := textBefore_append_drop delimiters.opening cursor.ahead
  rw [literalText?] at read
  cases found : textBefore delimiters.opening cursor.ahead with
  | nil =>
    rw [found] at read
    cases read
  | cons first more =>
    rw [found] at read split
    cases read
    exact ⟨first :: more, _, List.cons_ne_nil _ _, split.symm, rfl⟩

theorem item?_advances (inside : Bool) : (cursor.item? delimiters inside).Advances cursor :=
  .of_governs item?_governed (item?_movesFrom cursor _ _)

end Cursor

/-! ### What is chosen -/

theorem Item.getD_chosen? (item : Item) (delimiters : Delimiters) :
    item.chosen?.getD delimiters = item.delimitersAfter delimiters := by
  cases item <;> rfl

theorem Item.Spelled.words {delimiters : Delimiters} {item : Item} {word : List Char}
    {chosen : Delimiters} (spelled : item.Spelled delimiters word)
    (chooses : item.chosen? = some chosen) :
    IsDefinition chosen.opening ∧ IsDefinition chosen.closing := by
  cases spelled with
  | redelimited blankFirst definesOpening blankSecond apart definesClosing blankLast =>
    cases chooses
    exact ⟨definesOpening, definesClosing⟩
  | _ => cases chooses

namespace Cursor

variable {cursor next : Cursor} {delimiters chosen : Delimiters} {item : Item}

theorem words_of_instruction? (read : cursor.instruction? delimiters = .ok (some (item, next)))
    (chooses : item.chosen? = some chosen) :
    IsDefinition chosen.opening ∧ IsDefinition chosen.closing := by
  obtain ⟨word, rest, -, reads, -⟩ := instruction?_governed.exists_word read
  exact (@ItemReads.instruction delimiters false item word rest reads).spelled.words chooses

theorem chosen?_of_openingTag? (read : cursor.openingTag? delimiters = .ok (some (item, next))) :
    item.chosen? = none := by
  rw [openingTag?] at read
  generalize cursor.tag? delimiters (some '#') false = plain at read
  generalize cursor.tag? delimiters (some '^') false = inverted at read
  rcases plain with fault | - | opened
  · cases read
  · rcases inverted with fault | - | opened
    · cases read
    · cases read
    · cases read
      rfl
  · cases read
    rfl

theorem chosen?_of_literalText? (read : cursor.literalText? delimiters = .ok (some (item, next))) :
    item.chosen? = none := by
  rw [literalText?] at read
  split at read
  · cases read
  · cases read
    rfl

end Cursor

/-! ### The discipline -/

namespace Program

variable {α : Type}

/-- A program keeps the discipline. Where it is absent or at fault it leaves the cursor and the
delimiters as they were. Where it is read it has moved the cursor on, and has set delimiters just if
it has read a choice of them; these are two words. -/
structure Disciplined (program : Program (Option α)) (chosen? : α → Option Delimiters) : Prop where
  absent : ∀ {shared behind}, program shared = .ok none behind → behind = shared
  fault : ∀ {shared error behind}, program shared = .error error behind → behind = shared
  read : ∀ {shared value behind}, program shared = .ok (some value) behind →
    shared.cursor.MovesTo behind.cursor ∧
      behind.delimiters = (chosen? value).getD shared.delimiters ∧
      ∀ chosen, chosen? value = some chosen →
        IsDefinition chosen.opening ∧ IsDefinition chosen.closing

theorem Disciplined.of_eq {program : Program (Option α)} {known? chosen? : α → Option Delimiters}
    {production : Cursor → Delimiters → Reading α}
    (same : ∀ shared,
      program shared = (production shared.cursor shared.delimiters).behind known? shared)
    (advances : ∀ cursor delimiters, (production cursor delimiters).Advances cursor)
    (chosen : ∀ cursor delimiters value next,
      production cursor delimiters = .ok (some (value, next)) → known? value = chosen? value ∧
        ∀ chosen, chosen? value = some chosen →
          IsDefinition chosen.opening ∧ IsDefinition chosen.closing) :
    program.Disciplined chosen? := by
  refine ⟨fun {shared} _ ran => ?_, fun {shared} _ _ ran => ?_, fun {shared} _ _ ran => ?_⟩
  · rw [same] at ran
    exact (Reading.behind_eq_absent_iff.mp ran).2
  · rw [same] at ran
    exact (Reading.behind_eq_error_iff.mp ran).2
  · rw [same] at ran
    obtain ⟨next, read, rfl⟩ := Reading.behind_eq_read_iff.mp ran
    obtain ⟨agrees, words⟩ := chosen _ _ _ _ read
    exact ⟨advances _ _ _ _ read, congrArg (Option.getD · shared.delimiters) agrees, words⟩

theorem tag_disciplined (mark : Option Char) (takesFormat : Bool) :
    (tag mark takesFormat).Disciplined fun _ => none :=
  .of_eq (tag_eq mark takesFormat)
    (fun cursor delimiters => cursor.tag?_advances delimiters mark takesFormat)
    fun _ _ _ _ _ => ⟨rfl, nofun⟩

theorem sectionStart_disciplined : sectionStart.Disciplined fun _ => none :=
  .of_eq sectionStart_eq Cursor.openingTag?_advances
    fun _ _ _ _ read => ⟨Cursor.chosen?_of_openingTag? read, nofun⟩

theorem instruction_disciplined : instruction.Disciplined Item.chosen? :=
  .of_eq instruction_eq Cursor.instruction?_advances
    fun _ _ _ _ read => ⟨rfl, fun _ => Cursor.words_of_instruction? read⟩

theorem formatDirective_disciplined : formatDirective.Disciplined fun _ => none :=
  .of_eq formatDirective_eq (fun cursor _ => cursor.formatDirective?_advances)
    fun _ _ _ _ _ => ⟨rfl, nofun⟩

theorem literalText_disciplined : literalText.Disciplined fun _ => none :=
  .of_eq literalText_eq Cursor.literalText?_advances
    fun _ _ _ _ read => ⟨Cursor.chosen?_of_literalText? read, nofun⟩

end Program

/-! ### The loop -/

/-- What the turns of the loop share: the cursor with the delimiters in force, and what has been put
together so far. -/
structure Loop where
  shared : Shared
  assembly : Assembly

namespace Loop

/-- The loop in front of its first turn. -/
def start (delimiters : Delimiters) (text : String) : Loop where
  shared := { cursor := .ofText text.toList, delimiters }
  assembly := { delimiters }

/-- Does a program with the shared cursor of the loop. -/
def withShared {α : Type} (program : Program α) : EStateM ParseError Loop α := fun loop =>
  match program loop.shared with
  | .ok value shared => .ok value { loop with shared }
  | .error fault shared => .error fault { loop with shared }

/-- One turn of the loop, which tells whether the loop goes on. A closing tag is looked for inside a
section only, and where no item is found no section may be open. -/
def turn : EStateM ParseError Loop Bool := do
  let { shared := before, assembly } ← get
  let found ← withShared (Program.item (decide (0 < assembly.around.length)))
  let stop := (← get).shared.cursor.position
  match found with
  | none =>
    if let innermost :: _ := assembly.around then
      throw { kind := .missingSectionEnd, position := stop, details := [innermost.name.toString] }
    return false
  | some item =>
    match assembly.take { item, start := before.cursor.position, stop } with
    | .error fault => throw fault
    | .ok assembly =>
      modify ({ · with assembly })
      return true

/-- What the loop comes to within a number of turns, if it ends within them. -/
def run : Nat → Loop → Option (EStateM.Result ParseError Loop Unit)
  | 0, _ => none
  | turns + 1, loop =>
    match turn loop with
    | .error fault final => some (.error fault final)
    | .ok false final => some (.ok () final)
    | .ok true next => run turns next

/-- A turn, told by the function of the cursor that reads the next item. -/
theorem turn_eq (loop : Loop) :
    turn loop =
      match loop.shared.cursor.item? loop.shared.delimiters
        (decide (0 < loop.assembly.around.length)) with
      | .error fault => .error fault loop
      | .ok none =>
        match loop.assembly.around with
        | [] => .ok false loop
        | innermost :: _ =>
          .error {
            kind := .missingSectionEnd
            position := loop.shared.cursor.position
            details := [innermost.name.toString] } loop
      | .ok (some (item, next)) =>
        let shared :=
          { cursor := next, delimiters := item.delimitersAfter loop.shared.delimiters }
        match loop.assembly.take
          { item, start := loop.shared.cursor.position, stop := next.position } with
        | .error fault => .error fault { loop with shared }
        | .ok assembly => .ok true { shared, assembly } := by
  show EStateM.bind (withShared _) _ loop = _
  rw [EStateM.bind, withShared, Program.item_eq]
  rcases loop.shared.cursor.item? loop.shared.delimiters
    (decide (0 < loop.assembly.around.length)) with fault | - | ⟨item, next⟩
  · rfl
  · obtain ⟨shared, ⟨delimiters, level, around, changes⟩⟩ := loop
    cases around with
    | nil => rfl
    | cons innermost around => rfl
  · dsimp only [Reading.behind]
    rw [item.getD_chosen?]
    show (match loop.assembly.take
      { item, start := loop.shared.cursor.position, stop := next.position } with
      | .error fault => throw fault
      | .ok assembly => do
        modify ({ · with assembly })
        return true : EStateM ParseError Loop Bool) _ = _
    cases loop.assembly.take
      { item, start := loop.shared.cursor.position, stop := next.position } with
    | error fault => rfl
    | ok assembly => rfl

/-- What is compiled in the end from what the loop has put together and what is ahead of it. -/
def compiled (loop : Loop) : Except ParseError (List Token) :=
  let itemized :=
    loop.shared.cursor.itemize loop.shared.delimiters loop.assembly.around.length
  (loop.assembly.takeAll itemized.ending itemized.items).outcome

variable {loop next : Loop}

/-- A turn changes nothing about what is compiled in the end. -/
theorem compiled_eq (loop : Loop) :
    loop.compiled =
      match turn loop with
      | .error fault _ => .error fault
      | .ok false final => .ok final.assembly.level.reverse
      | .ok true next => next.compiled := by
  rw [turn_eq, compiled, Cursor.itemize_eq]
  rcases loop.shared.cursor.item? loop.shared.delimiters
    (decide (0 < loop.assembly.around.length)) with fault | - | ⟨item, next⟩
  · rfl
  · obtain ⟨shared, ⟨delimiters, level, around, changes⟩⟩ := loop
    cases around with
    | nil => rfl
    | cons innermost around => rfl
  · dsimp only [Itemized.behind, List.singleton_append]
    rw [Assembly.takeAll]
    cases taken : loop.assembly.take
      { item, start := loop.shared.cursor.position, stop := next.position } with
    | error fault => rfl
    | ok assembly =>
      dsimp only
      rw [compiled, Assembly.length_around_take taken]

/-- A turn without a fault leaves the loop as it is, behind the last character and with no section
open, or the loop goes on from a cursor that has been moved on. -/
theorem cases_of_turn {goesOn : Bool} (turned : turn loop = .ok goesOn next) :
    (goesOn = false ∧ next = loop ∧ loop.shared.cursor.ahead = [] ∧ loop.assembly.around = []) ∨
      (goesOn = true ∧ loop.shared.cursor.MovesTo next.shared.cursor) := by
  rw [turn_eq] at turned
  rcases read : loop.shared.cursor.item? loop.shared.delimiters
    (decide (0 < loop.assembly.around.length)) with fault | - | ⟨item, behind⟩
  · rw [read] at turned
    cases turned
  · rw [read] at turned
    dsimp only at turned
    split at turned
    · cases turned
      exact .inl ⟨rfl, rfl, Cursor.item?_eq_none_iff.mp read, ‹_›⟩
    · cases turned
  · rw [read] at turned
    dsimp only at turned
    split at turned
    · cases turned
    · cases turned
      exact .inr ⟨rfl, Cursor.item?_advances _ _ _ _ _ read⟩

/-- What a loop that has ended tells. If it was left, it was left at the end of its text with no
section open, and what it has put together is what is compiled; a fault is the one of the text. -/
def Ended (text : List Char) (compiled : Except ParseError (List Token)) :
    EStateM.Result ParseError Loop Unit → Prop
  | .ok () final =>
    final.shared.cursor = cursorAt text text.length ∧ final.assembly.around = [] ∧
      compiled = .ok final.assembly.level.reverse
  | .error fault _ => compiled = .error fault

/-- The loop ends within as many turns as characters are ahead, and one more. -/
theorem run_ends (loop : Loop) {text : List Char} {offset turns : Nat}
    (place : loop.shared.cursor = cursorAt text offset) (inside : offset ≤ text.length)
    (enough : text.length < offset + turns) :
    ∃ outcome, run turns loop = some outcome ∧ Ended text loop.compiled outcome := by
  induction turns generalizing loop offset with
  | zero => omega
  | succ turns inductionHypothesis =>
    have compiled := loop.compiled_eq
    rw [run]
    rcases turned : turn loop with ⟨goesOn, next⟩ | ⟨fault, next⟩
    · rw [turned] at compiled
      rcases cases_of_turn turned with ⟨rfl, rfl, ended, closed⟩ | ⟨rfl, moves⟩
      · have behind : text.drop offset = [] := by rwa [place] at ended
        have last : offset = text.length :=
          Nat.le_antisymm inside (List.drop_eq_nil_iff.mp behind)
        exact ⟨_, rfl, place.trans (congrArg (cursorAt text) last), closed, compiled⟩
      · rw [place] at moves
        obtain ⟨further, onwards, within, there⟩ := moves.exists_offset inside
        rw [compiled]
        exact inductionHypothesis next there within (by omega)
    · rw [turned] at compiled
      exact ⟨_, rfl, compiled⟩

/-- Every production keeps the discipline, and only an instruction sets delimiters. So the loop that
compiles a text ends: it takes one turn more than the text has characters at the most. It is left
without a fault at the end of the text with no section open, and comes to what the text compiles
to. -/
theorem compiling_ends :
    (∀ mark takesFormat, (Program.tag mark takesFormat).Disciplined fun _ => none) ∧
    Program.sectionStart.Disciplined (fun _ => none) ∧
    Program.instruction.Disciplined Item.chosen? ∧
    Program.formatDirective.Disciplined (fun _ => none) ∧
    Program.literalText.Disciplined (fun _ => none) ∧
    ∀ delimiters (text : String), ∃ outcome,
      run (text.length + 1) (start delimiters text) = some outcome ∧
        Ended text.toList (compile delimiters text).outcome outcome := by
  refine ⟨Program.tag_disciplined, Program.sectionStart_disciplined,
    Program.instruction_disciplined, Program.formatDirective_disciplined,
    Program.literalText_disciplined, fun delimiters text => ?_⟩
  have enough : text.toList.length < 0 + (text.length + 1) := by
    rw [String.length_toList]
    omega
  exact run_ends (start delimiters text) rfl (Nat.zero_le _) enough

-- The bound is met: the text of one character takes the turn that reads it, and a last one.
example : (run 1 (start .standard "a")).isNone ∧ (run 2 (start .standard "a")).isSome := by
  decide +kernel

end Loop

end Stencil
