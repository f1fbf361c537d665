/-
This file proves where and how the compilation of a text fails.

A text that fails begins with a sequence of items that are all taken. Behind them it is at fault
in one of three ways: the next item is at fault in itself, or it is a closing tag under another
name than that of the innermost open section, or the text ends while a section is open. Each of
these is said of the text alone, with the delimiters in force and the names of the open sections
that the items leave; and wherever one of them holds behind such a sequence, the compilation
fails with its fault.
-/

import Stencil.Proofs.Composition

namespace Stencil

/-- A text is at fault behind items that leave sections open: in the item that should begin
there, at a closing tag under another name than that of the innermost section, or at the end. -/
inductive TextFails (delimiters : Delimiters) :
    List Name → ParseErrorKind → List String → List Char → List Char → Prop where
  | item {around : List Name} {kind : ParseErrorKind} {details : List String}
      {word rest : List Char}
      (fails : ItemFails delimiters (decide (0 < around.length)) kind details word rest) :
      TextFails delimiters around kind details word rest
  | mismatched {innermost name : Name} {around : List Name} {tag rest : List Char}
      (reads : ItemReads delimiters true (.closed name) tag rest) (other : name ≠ innermost) :
      TextFails delimiters (innermost :: around) .mismatchedSectionEnd
        [name.toString, innermost.toString] [] (tag ++ rest)
  | unclosed {innermost : Name} {around : List Name} :
      TextFails delimiters (innermost :: around) .missingSectionEnd [innermost.toString] [] []

namespace Assembly

theorem length_openNames (assembly : Assembly) :
    assembly.openNames.length = assembly.around.length := List.length_map _

/-- Only a closing tag is not taken: where no section is open, or where the innermost one has
another name. -/
theorem exists_of_take_eq_error {assembly : Assembly} {item : Item} {start stop : Position}
    {fault : ParseError} (refused : assembly.take { item, start, stop } = .error fault) :
    ∃ name, item = .closed name ∧ (assembly.openNames = [] ∨
      ∃ innermost around, assembly.openNames = innermost :: around ∧ name ≠ innermost ∧
        fault = {
          kind := .mismatchedSectionEnd
          position := start
          details := [name.toString, innermost.toString] }) := by
  obtain ⟨delimiters, level, around, changes⟩ := assembly
  cases item with
  | closed name =>
    refine ⟨name, rfl, ?_⟩
    cases around with
    | nil => exact .inl rfl
    | cons opened around =>
      by_cases same : name = opened.name
      · simp [take, same] at refused
      · simp only [take, if_neg same, Except.error.injEq] at refused
        exact .inr ⟨opened.name, _, rfl, same, refused.symm⟩
  | _ => cases refused

end Assembly

/-- Where the items of a text do not come to trees, the text is at fault behind some of them,
which are all taken. -/
theorem exists_fails_of_outcome {cursor : Cursor} {delimiters : Delimiters} {depth : Nat}
    {assembly : Assembly} {fault : ParseError} (within : depth = assembly.around.length)
    (failed : (assembly.takeAll (cursor.itemize delimiters depth).ending
      (cursor.itemize delimiters depth).items).outcome = .error fault) :
    ∃ items final before word rest, cursor.ahead = before ++ (word ++ rest) ∧
      SequenceReads (word ++ rest) cursor.position delimiters depth items before ∧
      items.foldlM Assembly.take assembly = .ok final ∧
      TextFails (delimitersBehind delimiters items) final.openNames fault.kind fault.details
        word rest ∧
      fault.position = cursor.position.after (before ++ word) := by
  induction cursor, delimiters, depth using Cursor.itemize_induction generalizing assembly with
  | ended cursor delimiters depth ended =>
    rw [Cursor.itemize_end ended] at failed
    obtain ⟨chosen, level, around, changes⟩ := assembly
    cases around with
    | nil => cases failed
    | cons innermost around =>
      cases failed
      exact ⟨[], _, [], [], [], ended, .nil, rfl, .unclosed, rfl⟩
  | failed cursor delimiters depth kind details word rest ahead fails =>
    rw [Cursor.itemize_fault ahead fails] at failed
    cases failed
    subst within
    rw [← Assembly.length_openNames] at fails
    exact ⟨[], assembly, [], word, rest, ahead, .nil, rfl, .item fails, rfl⟩
  | read cursor delimiters depth item word rest ahead reads inductionHypothesis =>
    subst within
    rw [Cursor.itemize_read ahead reads] at failed
    simp only [Itemized.behind, List.cons_append, List.nil_append, Assembly.takeAll] at failed
    split at failed
    · rename_i refused
      cases failed
      obtain ⟨name, rfl, closed | ⟨innermost, around, opened, other, rfl⟩⟩ :=
        Assembly.exists_of_take_eq_error refused
      · -- Outside of all sections no closing tag is read.
        rw [← Assembly.length_openNames, closed] at reads
        cases reads with
        | closed within => cases within
        | instruction reads => obtain ⟨body, -, reached⟩ := reads; cases reached
      · rw [← Assembly.length_openNames, opened] at reads
        refine ⟨[], assembly, [], [], word ++ rest, ahead, .nil, rfl, ?_, rfl⟩
        rw [opened]
        exact .mismatched reads other
    · rename_i next taken
      obtain ⟨items, final, before, faulty, tail, split, sequence, takenMore, fails, position⟩ :=
        inductionHypothesis (Assembly.length_around_take taken).symm failed
      rw [Cursor.ahead_past] at split
      subst split
      refine ⟨_, final, word ++ before, faulty, tail, ?_, .cons reads sequence,
        Assembly.foldlM_take_cons_iff.mpr ⟨next, taken, takenMore⟩, fails, ?_⟩
      · rw [ahead, List.append_assoc]
      · rw [position, Cursor.position_past, ← Position.after_append, List.append_assoc]

/-- Where a text is at fault, its items come to the fault. -/
theorem outcome_takeAll_itemize_of_fails {cursor : Cursor} {delimiters : Delimiters}
    {assembly : Assembly} {kind : ParseErrorKind} {details : List String}
    {word rest : List Char} (ahead : cursor.ahead = word ++ rest)
    (fails : TextFails delimiters assembly.openNames kind details word rest) :
    (assembly.takeAll (cursor.itemize delimiters assembly.around.length).ending
      (cursor.itemize delimiters assembly.around.length).items).outcome =
        .error { kind, position := cursor.position.after word, details } := by
  generalize opened : assembly.openNames = around at fails
  cases fails with
  | item fails =>
    rw [← opened, Assembly.length_openNames] at fails
    rw [Cursor.itemize_fault ahead fails]
    rfl
  | mismatched reads other =>
    rename_i innermost name around tag rest
    obtain ⟨delimiters', level, around', changes⟩ := assembly
    obtain ⟨outer, beneath, rfl, rfl, rfl⟩ := List.map_eq_cons_iff.mp opened
    have aheadTag : cursor.ahead = tag ++ rest := ahead
    rw [Cursor.itemize_read aheadTag reads]
    simp only [Itemized.behind, List.cons_append, Assembly.takeAll, Assembly.take, if_neg other]
    rfl
  | unclosed =>
    rename_i innermost around
    obtain ⟨delimiters', level, around', changes⟩ := assembly
    obtain ⟨outer, beneath, rfl, rfl, rfl⟩ := List.map_eq_cons_iff.mp opened
    rw [Cursor.itemize_end ahead]
    rfl

/-- A text fails to compile exactly where it is at fault behind items that are all taken, and the
fault is reported there. -/
theorem compile_eq_error_iff {delimiters : Delimiters} {text : String} {fault : ParseError} :
    (compile delimiters text).outcome = .error fault ↔
      ∃ items final before word rest, text.toList = before ++ (word ++ rest) ∧
        SequenceReads (word ++ rest) .start delimiters 0 items before ∧
        items.foldlM Assembly.take { delimiters } = .ok final ∧
        TextFails (delimitersBehind delimiters items) final.openNames fault.kind fault.details
          word rest ∧
        fault.position = Position.start.after (before ++ word) := by
  refine ⟨exists_fails_of_outcome rfl, ?_⟩
  rintro ⟨items, final, before, word, rest, split, reads, taken, fails, position⟩
  have ahead : (Cursor.ofText text.toList).ahead = before ++ (word ++ rest) := split
  have depth : depthBehind 0 items = final.around.length := Assembly.depthBehind_foldlM taken
  rw [compile, Cursor.itemize_sequence ahead reads, depth]
  refine (Assembly.outcome_takeAll_append taken _ _).trans
    ((outcome_takeAll_itemize_of_fails (Cursor.ahead_past _ _ _) fails).trans ?_)
  rw [Cursor.position_past, ← Position.after_append]
  exact congrArg (fun place => Except.error { fault with position := place }) position.symm

end Stencil
