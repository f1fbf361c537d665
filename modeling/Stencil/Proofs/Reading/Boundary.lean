/-
This file proves that nothing behind a tag or an instruction has a say in how it is read.

A body is read as far as it goes, and its last reader looks at one character more, which is the
first one of the closing delimiter or the equals sign in front of it. What an instruction is, is
decided by a colon and a quote, and neither can stand behind that equals sign. Literal text is
the only item that looks further, for the next opening delimiter, and where one follows it looks
no further than that.
-/

import Stencil.Proofs.Reading.Sequence

namespace Stencil

/-! ### Characters behind a word -/

/-- Where a word has a first character, a run stops in front of it whatever is behind it. -/
theorem Stops.behind {accepts : Char → Bool} {word rest : List Char}
    (stops : Stops accepts (word ++ rest)) (present : word ≠ []) (other : List Char) :
    Stops accepts (word ++ other) :=
  (stops.of_append present).append other (.inl present)

theorem Name.EndsBefore.behind {name : Name} {word rest : List Char}
    (ends : name.EndsBefore (word ++ rest)) (present : word ≠ []) (other : List Char) :
    name.EndsBefore (word ++ other) :=
  (ends.of_append present).append other (.inl present)

/-- A word in which a character does not occur ends in front of the first one. -/
theorem prefix_of_prefix_append_cons {character : Char} {word text rest : List Char}
    (absent : character ∉ word) (begins : word <+: text ++ character :: rest) : word <+: text := by
  induction text generalizing word with
  | nil =>
    cases word with
    | nil => exact List.nil_prefix
    | cons first word =>
      obtain ⟨rfl, -⟩ := List.cons_prefix_cons.mp begins
      exact absurd List.mem_cons_self absent
  | cons next text inductionHypothesis =>
    cases word with
    | nil => exact List.nil_prefix
    | cons first word =>
      obtain ⟨rfl, more⟩ := List.cons_prefix_cons.mp begins
      exact List.cons_prefix_cons.mpr
        ⟨rfl, inductionHypothesis (fun member => absent (List.mem_cons_of_mem _ member)) more⟩

/-! ### Bodies -/

section Bodies

variable {delimiters : Delimiters}

theorem TagBody.behind {mark : Option Char} {takesFormat : Bool} {name : Name}
    {format : Option String} {body closing rest : List Char}
    (reached : TagBody delimiters mark takesFormat name format body (closing ++ rest))
    (present : closing ≠ []) (other : List Char) :
    TagBody delimiters mark takesFormat name format body (closing ++ other) := by
  cases reached with
  | parts opens writable blank before ends =>
    rename_i opening blanks formatted
    obtain ⟨spelled, taken, stops, noColon⟩ := before
    refine .parts opens writable blank ⟨spelled, taken, stops.behind present other,
      fun given takes => (noColon given takes).behind present other⟩ ?_
    have tail (rest : List Char) : blanks ++ (formatted ++ (closing ++ rest)) =
        blanks ++ (formatted ++ closing) ++ rest := by simp
    rw [tail] at ends ⊢
    exact ends.behind (by simp [present]) other

theorem DirectiveHead.not_mem_equals {typeName : String} {head : List Char}
    (begins : DirectiveHead typeName head) : '=' ∉ head := by
  have notBlank {blanks : List Char} (blank : Blanks blanks) : '=' ∉ blanks :=
    fun member => absurd (blank _ member) (by decide)
  cases begins with
  | parts identifier blankSecond blankThird =>
    have notIdentifier : '=' ∉ typeName.toList :=
      fun member => absurd (identifier.2 _ member) (by decide)
    simp [notIdentifier, notBlank blankSecond, notBlank blankThird]

/-- Whether a text begins like an instruction that sets a format is decided in front of the first
equals sign. -/
theorem beginsDirective_append_iff {text rest : List Char} :
    BeginsDirective (text ++ '=' :: rest) ↔ BeginsDirective text := by
  constructor
  · rintro ⟨typeName, head, behind, begins, split⟩
    have quoted : head ++ ['"'] <+: text ++ '=' :: rest := ⟨behind, by simp [split]⟩
    have absent : '=' ∉ head ++ ['"'] := by simp [begins.not_mem_equals]
    obtain ⟨behind, spelled⟩ := prefix_of_prefix_append_cons absent quoted
    exact ⟨typeName, head, behind, begins, by simp [← spelled]⟩
  · rintro ⟨typeName, head, behind, begins, rfl⟩
    exact ⟨typeName, head, behind ++ '=' :: rest, begins, by simp⟩

theorem DelimiterWords.behind {chosen : Delimiters} {words closing rest : List Char}
    (chooses : DelimiterWords chosen words (closing ++ rest)) (present : closing ≠ [])
    (other : List Char) : DelimiterWords chosen words (closing ++ other) := by
  cases chooses with
  | parts definesOpening blankSecond apart definesClosing blankLast ends stops =>
    rename_i second last
    refine .parts definesOpening blankSecond apart definesClosing blankLast ?_
      (stops.behind present other)
    rw [← List.append_assoc] at ends ⊢
    exact ends.behind (by simp [present]) other

theorem InstructionBody.behind {item : Item} {body rest : List Char}
    (reached : InstructionBody delimiters item body (delimiters.instructionClosing ++ rest))
    (other : List Char) :
    InstructionBody delimiters item body (delimiters.instructionClosing ++ other) := by
  have present : delimiters.instructionClosing ≠ [] := List.cons_ne_nil _ _
  cases reached with
  | setFormat blankFirst begins quoted blankLast stops =>
    exact .setFormat blankFirst begins quoted blankLast (stops.behind present other)
  | redelimited blankFirst noDirective chooses =>
    refine .redelimited blankFirst ?_ (chooses.behind present other)
    rw [Delimiters.instructionClosing, List.cons_append, beginsDirective_append_iff]
      at noDirective ⊢
    exact noDirective

/-! ### Items -/

/-- An item is read in the same way in front of every rest, where literal text goes on to an
opening delimiter. -/
theorem ItemReads.behind {inside : Bool} {item : Item} {word rest other : List Char}
    (reads : ItemReads delimiters inside item word rest)
    (bounded : item.isText = true → delimiters.opening <+: rest ∧ delimiters.opening <+: other) :
    ItemReads delimiters inside item word other := by
  have tag {mark : Option Char} {takesFormat : Bool} {value : Name × Option String}
      (reads : (tagRule delimiters mark takesFormat).reads value word rest) :
      (tagRule delimiters mark takesFormat).reads value word other := by
    obtain ⟨body, rfl, reached⟩ := reads
    exact ⟨body, rfl, reached.behind delimiters.closing_ne_nil other⟩
  cases reads with
  | text present clear =>
    obtain ⟨⟨rest, rfl⟩, ⟨other, rfl⟩⟩ := bounded rfl
    rw [Delimiters.clear_append_iff] at clear
    exact .text present (Delimiters.clear_append_iff.mpr clear) (.inr (List.prefix_append _ _))
  | insert reads => exact .insert (tag reads)
  | opened reads => exact .opened (tag reads)
  | closed within reads => exact .closed within (tag reads)
  | instruction reads =>
    obtain ⟨body, rfl, reached⟩ := reads
    exact .instruction ⟨body, rfl, reached.behind other⟩

/-- An item is never empty. -/
theorem ItemReads.word_ne_nil {inside : Bool} {item : Item} {word rest : List Char}
    (reads : ItemReads delimiters inside item word rest) : word ≠ [] := by
  have ahead : (Cursor.ofText (word ++ rest)).ahead = word ++ rest := rfl
  have shorter := Cursor.item?_movesFrom _ _ _ _ _ (Cursor.item?_governed.read_of ahead reads)
  rintro rfl
  exact Nat.lt_irrefl _ shorter

/-- Literal text does not begin with the opening delimiter. -/
theorem ItemReads.isText_eq_false {inside : Bool} {item : Item} {word rest : List Char}
    (reads : ItemReads delimiters inside item word rest)
    (begins : delimiters.opening <+: word ++ rest) : item.isText = false := by
  refine Bool.eq_false_iff.mpr fun isText => ?_
  obtain ⟨after, split⟩ := begins
  have clear := (reads.bounded isText).1 [] after split.symm
  exact reads.word_ne_nil (List.eq_nil_of_length_eq_zero (Nat.le_zero.mp clear))

/-- A sequence of items up to the end of a text is read in the same way in front of every rest,
unless its last item is literal text. -/
theorem SequenceReads.behind {position : Position} {depth : Nat} {items : List PlacedItem}
    {text : List Char} (reads : SequenceReads [] position delimiters depth items text)
    (last : ∀ placed ∈ items.getLast?, placed.item.isText = false) (rest : List Char) :
    SequenceReads rest position delimiters depth items text := by
  induction reads with
  | nil => exact .nil
  | cons reads more inductionHypothesis =>
    rename_i position delimiters depth item items word text
    have lastMore : ∀ placed ∈ items.getLast?, placed.item.isText = false := by
      intro placed member
      refine last placed ?_
      cases items with
      | nil => cases member
      | cons next items => exact member
    rw [List.append_nil] at reads
    refine .cons (reads.behind fun isText => ?_) (inductionHypothesis lastMore)
    -- A literal text is not the last item, so the next one stands behind it.
    cases more with
    | nil => exact absurd (last _ rfl) (by simp [isText])
    | cons next more =>
      rename_i nextItem items nextWord text
      have begins : delimiters.opening <+: nextWord ++ text := by
        rcases (reads.bounded isText).2 with empty | begins
        · exact absurd (List.append_eq_nil_iff.mp empty).1 next.word_ne_nil
        · exact begins
      exact ⟨begins, begins.trans (List.prefix_append _ _)⟩

end Bodies

end Stencil
