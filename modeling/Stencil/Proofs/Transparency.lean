/-
This file proves which tags can be written with delimiters that a template has chosen.

An instruction chooses almost any two words as delimiters, and nothing asks whether the closing one
can be told apart from what stands in front of it. A name is read as far as it goes, and where an
insert may have a format a colon begins one. So a tag is read as it was meant exactly where its
closing delimiter goes on with neither: it begins with no character of a name, unless the name is
that of the innermost value itself, which is a single dot, and behind an insert it begins with no
colon. In all other cases the name or the format takes a part of the closing delimiter with it, and
what is left of the tag is no closing delimiter any more.
-/

import Stencil.Proofs.Composition
import Stencil.Proofs.RoundTrip

namespace Stencil

/-! ### Names that are read -/

namespace Name

theorem eq_self_of_isSelf {name : Name} (isSelf : name.isSelf = true) : name = .self := by
  obtain ⟨segments⟩ := name
  obtain rfl : segments = [] := List.isEmpty_iff.mp isSelf
  rfl

theorem forall_isNameChar {name : Name} (writable : name.IsWritable) :
    ∀ character ∈ name.toString.toList, isNameChar character = true := by
  have inSegment {segment : String} (identifier : IsIdentifier segment.toList) :
      ∀ character ∈ segment.toList, isNameChar character = true := fun character member => by
    rw [isNameChar, identifier.2 character member, Bool.true_or]
  obtain ⟨segments⟩ := name
  cases segments with
  | nil =>
    rw [show (Name.toString { segments := [] }).toList = ['.'] from rfl]
    exact List.forall_mem_singleton.mpr (by decide)
  | cons segment segments =>
    obtain ⟨identifier, identifiers⟩ := List.forall_mem_cons.mp writable
    rw [toList_toString_cons]
    intro character member
    rcases List.mem_append.mp member with member | member
    · exact inSegment identifier character member
    · obtain ⟨segment, inSegments, member⟩ := List.mem_flatMap.mp member
      rcases List.mem_cons.mp member with rfl | member
      · decide
      · exact inSegment (identifiers segment inSegments) character member

/-- Only the name of the innermost value itself begins with a dot. -/
theorem isSelf_of_dot_prefix {name : Name} (writable : name.IsWritable)
    (begins : ['.'] <+: name.toString.toList) : name.isSelf = true := by
  obtain ⟨segments⟩ := name
  cases segments with
  | nil => rfl
  | cons segment segments =>
    obtain ⟨present, identifier⟩ := writable segment List.mem_cons_self
    obtain ⟨first, rest, spelled⟩ := List.exists_cons_of_ne_nil present
    rw [toList_toString_cons, spelled] at begins
    obtain ⟨rfl, -⟩ := List.cons_prefix_cons.mp begins
    exact absurd (identifier '.' (by simp [spelled])) (by decide)

/-- The name of the innermost value itself begins with no name but itself. -/
theorem isSelf_of_prefix {name read : Name} (writable : name.IsWritable)
    (begins : name.toString.toList <+: read.toString.toList) (isSelf : read.isSelf = true) :
    name.isSelf = true := by
  obtain ⟨first, rest, spelled, -⟩ := exists_toList_toString writable
  refine isSelf_of_dot_prefix writable ?_
  rw [eq_self_of_isSelf isSelf, toList_toString_self, spelled] at begins
  obtain ⟨rfl, -⟩ := List.cons_prefix_cons.mp begins
  exact ⟨rest, spelled.symm⟩

/-- A name is read as far as it goes: where a written name stands, no less than this name is
read. -/
theorem prefix_of_read {name read : Name} {behind rest : List Char} (writable : name.IsWritable)
    (ends : read.EndsBefore behind)
    (same : read.toString.toList ++ behind = name.toString.toList ++ rest) :
    name.toString.toList <+: read.toString.toList := by
  rcases List.append_eq_append_iff.mp same with ⟨more, spelled, rfl⟩ | ⟨more, spelled, -⟩
  · -- The name goes on where the reading ends, so nothing of the name can be left there.
    rcases ends with isSelf | stops
    · rw [eq_self_of_isSelf isSelf, toList_toString_self] at spelled ⊢
      have selfName := isSelf_of_dot_prefix writable ⟨more, spelled.symm⟩
      exact ⟨[], by rw [eq_self_of_isSelf selfName, toList_toString_self, List.append_nil]⟩
    · cases more with
      | nil => exact ⟨[], by rw [spelled, List.append_nil, List.append_nil]⟩
      | cons next more =>
        have inName := forall_isNameChar writable next (by simp [spelled])
        rw [List.cons_append, Stops.cons_iff, inName] at stops
        cases stops
  · exact ⟨more, spelled.symm⟩

end Name

section Tags

variable {delimiters : Delimiters} {name : Name} {mark : Option Char} {takesFormat : Bool}

/-! ### Tags that are read -/

/-- A tag without blanks is read where nothing in it goes on into its closing delimiter. -/
theorem tag_reads (writable : name.IsWritable) (ends : name.EndsBefore delimiters.closing)
    (solid : Stops Text.isBlank delimiters.closing)
    (noColon : takesFormat = true → Stops (· == ':') delimiters.closing) (rest : List Char) :
    (tagRule delimiters mark takesFormat).reads (name, none) (delimiters.tag mark name none)
      rest := by
  have present : delimiters.closing ≠ [] ∨ rest = [] := .inl delimiters.closing_ne_nil
  have before : FormatBefore takesFormat none [] (delimiters.closing ++ rest) :=
    ⟨.absent, fun given => absurd rfl given, solid.append rest present,
      fun _ takes => (noColon takes).append rest present⟩
  refine ⟨_, ?_, .parts (tagOpening delimiters mark) writable blanks_nil before
    (ends.append rest present)⟩
  simp [Delimiters.tag]

theorem blanks_eq_nil {blanks rest : List Char} (blank : Blanks blanks)
    (stops : Stops Text.isBlank (blanks ++ rest)) : blanks = [] := by
  cases blanks with
  | nil => rfl
  | cons first blanks =>
    rw [List.cons_append, Stops.cons_iff, blank first List.mem_cons_self] at stops
    cases stops

/-- What is read of a tag that begins without blanks: its name, blanks and format go up to a closing
delimiter. -/
theorem exists_of_tag_reads {read : Name} {format : Option String} {word rest behind : List Char}
    (solid : SolidMark mark) (writable : name.IsWritable)
    (reads : (tagRule delimiters mark takesFormat).reads (read, format) word rest)
    (spelled : word ++ rest =
      delimiters.opening ++ (mark.toList ++ (name.toString.toList ++ behind))) :
    ∃ blanks formatted, Blanks blanks ∧
      FormatBefore takesFormat format formatted (delimiters.closing ++ rest) ∧
      read.EndsBefore (blanks ++ (formatted ++ (delimiters.closing ++ rest))) ∧
      read.toString.toList ++ (blanks ++ (formatted ++ (delimiters.closing ++ rest))) =
        name.toString.toList ++ behind := by
  obtain ⟨body, rfl, reached⟩ := reads
  cases reached with
  | parts opens readable blank before ends =>
    rename_i opening blanks formatted
    refine ⟨blanks, formatted, blank, before, ends, ?_⟩
    have stops := Name.stops_isBlank writable behind
    cases opens with
    | plain blankFirst =>
      simp only [List.append_assoc, List.append_cancel_left_eq, Option.toList_none,
        List.nil_append] at spelled
      rw [← spelled] at stops
      rwa [blanks_eq_nil blankFirst stops, List.nil_append] at spelled
    | marked mark blankBefore blankAfter =>
      simp only [List.append_assoc, List.cons_append, List.append_cancel_left_eq,
        Option.toList_some, List.nil_append] at spelled
      have stopsMark : Stops Text.isBlank (mark :: (name.toString.toList ++ behind)) :=
        Stops.cons_iff.mpr (solid mark rfl)
      rw [← spelled] at stopsMark
      rw [blanks_eq_nil blankBefore stopsMark, List.nil_append, List.cons.injEq] at spelled
      obtain ⟨-, spelled⟩ := spelled
      rw [← spelled] at stops
      rwa [blanks_eq_nil blankAfter stops, List.nil_append] at spelled

/-- Where an insert is read that begins like a tag without blanks, nothing in that tag goes on into
its closing delimiter. -/
theorem ends_of_insert_reads {read : Name} {format : Option String} {word rest : List Char}
    (writable : name.IsWritable)
    (reads : (tagRule delimiters none true).reads (read, format) word rest)
    (spelled : word ++ rest = delimiters.tag none name none) :
    name.EndsBefore delimiters.closing ∧ Stops (· == ':') delimiters.closing := by
  obtain ⟨blanks, formatted, -, before, ends, split⟩ :=
    exists_of_tag_reads Cursor.solidMark_none writable reads spelled
  have begins := Name.prefix_of_read writable ends split
  obtain ⟨more, longer⟩ := begins
  -- The closing delimiter is among what is left of the tag, so nothing else is left of it.
  rw [← longer, List.append_assoc, List.append_cancel_left_eq] at split
  have lengths := congrArg List.length split
  simp only [Option.map_none, Option.getD_none, List.nil_append, List.length_append] at lengths
  obtain rfl : blanks = [] := List.eq_nil_of_length_eq_zero (by omega)
  obtain rfl : formatted = [] := List.eq_nil_of_length_eq_zero (by omega)
  obtain rfl : rest = [] := List.eq_nil_of_length_eq_zero (by omega)
  simp only [List.nil_append, List.append_nil] at before ends
  refine ⟨ends.imp_left (Name.isSelf_of_prefix writable ⟨more, longer⟩), ?_⟩
  cases before.spelled
  exact before.noColon rfl rfl

/-- Where a tag without a format is read that begins like a tag without blanks, and no blank is in
what comes behind that tag, its name does not go on into its closing delimiter. -/
theorem ends_of_marked_reads {mark : Char} {read : Name} {word rest more : List Char}
    (solid : Text.isBlank mark = false) (writable : name.IsWritable)
    (reads : (tagRule delimiters (some mark) false).reads (read, none) word rest)
    (spelled : word ++ rest = delimiters.tag (some mark) name none ++ more)
    (tight : ∀ character ∈ delimiters.closing ++ more, Text.isBlank character = false) :
    name.EndsBefore delimiters.closing := by
  have cut : word ++ rest = delimiters.opening ++ ((some mark).toList ++
      (name.toString.toList ++ (delimiters.closing ++ more))) := by
    simpa [Delimiters.tag] using spelled
  obtain ⟨blanks, formatted, blank, before, ends, split⟩ :=
    exists_of_tag_reads (Cursor.solidMark_some solid) writable reads cut
  obtain rfl : blanks = [] := by
    cases blanks with
    | nil => rfl
    | cons first blanks =>
      have member : first ∈ name.toString.toList ++ (delimiters.closing ++ more) := by
        simp [← split]
      have notBlank : Text.isBlank first = false := by
        rcases List.mem_append.mp member with member | member
        · exact isBlank_of_isNameChar (Name.forall_isNameChar writable first member)
        · exact tight first member
      rw [blank first List.mem_cons_self] at notBlank
      cases notBlank
  have begins := Name.prefix_of_read writable ends split
  cases before.spelled
  rw [List.nil_append, List.nil_append] at ends
  exact (ends.of_append delimiters.closing_ne_nil).imp_left (Name.isSelf_of_prefix writable begins)

/-! ### Templates of these tags -/

/-- The tags of a section without children, without blanks. -/
def Delimiters.sectionTags (delimiters : Delimiters) (name : Name) : List Char :=
  delimiters.tag (some '#') name none ++ delimiters.tag (some '/') name none

theorem mark?_tag (solid : SolidMark mark) (writable : name.IsWritable) (rest : List Char) :
    ∃ first, delimiters.mark? (delimiters.tag mark name none ++ rest) = some first ∧
      (mark = some first ∨ mark = none ∧ isNameChar first = true) := by
  have cut : delimiters.tag mark name none ++ rest = delimiters.opening ++
      ([] ++ (mark.toList ++ (name.toString.toList ++ (delimiters.closing ++ rest)))) := by
    simp [Delimiters.tag]
  rw [cut]
  cases mark with
  | none =>
    obtain ⟨first, others, spelled, inName⟩ := Name.exists_toList_toString writable
    refine ⟨first, (Delimiters.mark?_eq blanks_nil ?_).trans ?_, .inr ⟨rfl, inName⟩⟩
    · exact Name.stops_isBlank writable _
    · rw [spelled]
      rfl
  | some mark =>
    refine ⟨mark, (Delimiters.mark?_eq blanks_nil ?_).trans rfl, .inl rfl⟩
    exact Stops.cons_iff.mpr (solid mark rfl)

/-- Behind an opening delimiter and outside of all sections, the mark tells what is read. -/
theorem ItemReads.of_opening {item : Item} {word rest : List Char}
    (reads : ItemReads delimiters false item word rest)
    (begins : delimiters.opening <+: word ++ rest) :
    (∃ name format, (tagRule delimiters none true).reads (name, format) word rest ∧
      ∀ inverted, delimiters.mark? (word ++ rest) ≠ some (sectionMark inverted)) ∨
    (∃ inverted name,
      (tagRule delimiters (some (sectionMark inverted)) false).reads (name, none) word rest ∧
      delimiters.mark? (word ++ rest) = some (sectionMark inverted)) ∨
    delimiters.mark? (word ++ rest) = some '=' := by
  have isText := reads.isText_eq_false begins
  cases reads with
  | text => cases isText
  | insert reads =>
    obtain ⟨body, rfl, reached⟩ := reads
    refine .inl ⟨_, _, ⟨body, rfl, reached⟩, ?_⟩
    rw [List.append_assoc]
    exact (unmarked_of_tagBody reached _ false).noOpening
  | opened reads =>
    obtain ⟨body, rfl, reached⟩ := reads
    refine .inr (.inl ⟨_, _, ⟨body, rfl, reached⟩, ?_⟩)
    rw [List.append_assoc]
    exact mark?_of_tagBody (sectionMark_solid _) reached _
  | closed within => cases within
  | instruction reads =>
    obtain ⟨body, rfl, reached⟩ := reads
    refine .inr (.inr (Delimiters.mark?_of_instructionOpening ?_))
    rw [List.append_assoc]
    exact (instructionOpening_prefix_of_body reached).trans (List.prefix_append _ _)

/-- A text at whose beginning nothing is read is at fault. -/
theorem exists_fault_of_unread {text : List Char} (present : text ≠ [])
    (unread : ∀ item word rest, word ++ rest = text → ¬ ItemReads delimiters false item word rest) :
    ∃ fault, (compile delimiters (String.ofList text)).outcome = .error fault := by
  rcases Cursor.exists_item (Cursor.ofText text) delimiters false present with
    ⟨item, word, rest, ahead, reads⟩ | ⟨kind, details, word, rest, ahead, fails⟩
  · exact absurd reads (unread item word rest ahead.symm)
  · refine ⟨((Cursor.ofText text).past word rest).fault kind details, ?_⟩
    rw [compile, String.toList_ofList, Cursor.itemize_fault ahead fails]
    rfl

/-- An insert is read where its closing delimiter goes on neither with its name nor with a
format. -/
theorem compile_insertTag (writable : name.IsWritable)
    (solid : Stops Text.isBlank delimiters.closing) (ends : name.EndsBefore delimiters.closing)
    (noColon : Stops (· == ':') delimiters.closing) :
    (compile delimiters (String.ofList (delimiters.tag none name none))).outcome =
      .ok [.insert name none] := by
  have sequence : SequenceReads [] .start delimiters 0 _ (delimiters.tag none name none ++ []) :=
    .cons (.insert (tag_reads writable ends solid (fun _ => noColon) _)) .nil
  rw [List.append_nil] at sequence
  exact compile_of_sequence (by rwa [String.toList_ofList]) rfl

/-- In all other cases it is at fault. -/
theorem exists_fault_insertTag (writable : name.IsWritable)
    (clash : ¬ (name.EndsBefore delimiters.closing ∧ Stops (· == ':') delimiters.closing)) :
    ∃ fault, (compile delimiters (String.ofList (delimiters.tag none name none))).outcome =
      .error fault := by
  obtain ⟨first, marked, ⟨⟨⟩⟩ | ⟨-, inName⟩⟩ :=
    @mark?_tag delimiters name none Cursor.solidMark_none writable []
  rw [List.append_nil] at marked
  obtain ⟨notEquals, notSection, -⟩ := ne_of_isNameChar inName
  have begins := Delimiters.opening_prefix_of_mark? marked
  refine exists_fault_of_unread (by simp [Delimiters.tag, delimiters.opening_ne_nil]) ?_
  intro item word rest split reads
  rcases reads.of_opening (split ▸ begins) with
    ⟨read, format, tag, -⟩ | ⟨inverted, read, tag, other⟩ | other
  · exact clash (ends_of_insert_reads writable tag split)
  · rw [split, marked] at other
    exact notSection inverted (Option.some.inj other)
  · rw [split, marked] at other
    exact notEquals (Option.some.inj other)

/-- The tags of a section are read where the closing delimiter does not go on with the name. -/
theorem compile_sectionTags (writable : name.IsWritable)
    (solid : Stops Text.isBlank delimiters.closing) (ends : name.EndsBefore delimiters.closing) :
    (compile delimiters (String.ofList (delimiters.sectionTags name))).outcome =
      .ok [.block name false []] := by
  have reads {mark : Option Char} (rest : List Char) :
      (tagRule delimiters mark false).reads (name, none) (delimiters.tag mark name none) rest :=
    tag_reads writable ends solid (fun takes => absurd takes Bool.false_ne_true) rest
  have sequence : SequenceReads [] .start delimiters 0 _
      (delimiters.tag (some '#') name none ++ (delimiters.tag (some '/') name none ++ [])) :=
    .cons (@ItemReads.opened _ _ _ false _ _ (reads _)) (.cons (.closed rfl (reads _)) .nil)
  rw [List.append_nil] at sequence
  exact compile_of_sequence (by rwa [String.toList_ofList]) rfl

/-- In all other cases they are at fault, if no blanks stand in the delimiters. -/
theorem exists_fault_sectionTags (writable : name.IsWritable)
    (definesOpening : IsDefinition delimiters.opening)
    (definesClosing : IsDefinition delimiters.closing)
    (clash : ¬ name.EndsBefore delimiters.closing) :
    ∃ fault, (compile delimiters (String.ofList (delimiters.sectionTags name))).outcome =
      .error fault := by
  have solid : SolidMark (some '#') := by
    rintro _ ⟨⟩
    decide
  obtain ⟨first, marked, ⟨⟨⟩⟩ | ⟨⟨⟩, -⟩⟩ :=
    @mark?_tag delimiters name (some '#') solid writable (delimiters.tag (some '/') name none)
  have begins := Delimiters.opening_prefix_of_mark? marked
  have tight : ∀ character ∈ delimiters.closing ++ delimiters.tag (some '/') name none,
      Text.isBlank character = false := by
    intro character member
    simp only [Delimiters.tag, List.mem_append, Option.toList_some, List.mem_singleton,
      Option.map_none, Option.getD_none, List.not_mem_nil, false_or] at member
    rcases member with member | member | rfl | member | member
    · exact isBlank_of_isDefinitionChar (definesClosing.2 character member)
    · exact isBlank_of_isDefinitionChar (definesOpening.2 character member)
    · decide
    · exact isBlank_of_isNameChar (Name.forall_isNameChar writable character member)
    · exact isBlank_of_isDefinitionChar (definesClosing.2 character member)
  refine exists_fault_of_unread
    (by simp [Delimiters.sectionTags, Delimiters.tag, delimiters.opening_ne_nil]) ?_
  intro item word rest split reads
  rw [Delimiters.sectionTags] at split
  rcases reads.of_opening (split ▸ begins) with
    ⟨read, format, -, unmarked⟩ | ⟨inverted, read, tag, same⟩ | other
  · exact unmarked false (split ▸ marked)
  · rw [split, marked] at same
    rw [← Option.some.inj same] at tag
    exact clash (ends_of_marked_reads (by decide) writable tag split tight)
  · rw [split, marked] at other
    cases other

end Tags

/-! ### Delimiters that are chosen -/

namespace Delimiters

/-- The instruction that chooses delimiters is accepted as one: it compiles to no tree, and its
choice is noted. -/
def IsAccepted (chosen : Delimiters) : Prop :=
  ∃ position, compile standard (String.ofList (standard.redelimiting chosen)) =
    { outcome := .ok [], changes := [{ old := standard, new := chosen, position }] }

variable {chosen : Delimiters}

/-- Items of which one chooses delimiters and none is part of a tree are one item. -/
theorem eq_singleton_of_chosen {items : List PlacedItem}
    (noted : items.filterMap (fun placed => placed.item.chosen?) = [chosen])
    (unlisted : (items.map PlacedItem.item).filter (fun item => !item.isRedelimited) = []) :
    ∃ placed, items = [placed] ∧ placed.item = .redelimited chosen := by
  have redelimited : ∀ placed ∈ items, placed.item.isRedelimited = true := by
    simpa using unlisted
  cases items with
  | nil => cases noted
  | cons placed rest =>
    obtain ⟨first, others⟩ := List.forall_mem_cons.mp redelimited
    cases item : placed.item with
    | redelimited delimiters =>
      rw [List.filterMap_cons, item] at noted
      obtain ⟨rfl, none⟩ := List.cons.inj noted
      cases rest with
      | nil => exact ⟨placed, rfl, item⟩
      | cons next rest =>
        have absent := List.filterMap_eq_nil_iff.mp none next List.mem_cons_self
        have present := others next List.mem_cons_self
        rw [Item.isRedelimited_eq_false_iff.mpr absent] at present
        cases present
    | _ =>
      rw [item] at first
      cases first

/-- Where the instruction is accepted, it is read as the choice of its delimiters. -/
theorem IsAccepted.reads (accepted : chosen.IsAccepted) :
    ItemReads standard false (.redelimited chosen) (standard.redelimiting chosen) [] := by
  obtain ⟨position, compiled⟩ := accepted
  obtain ⟨final, taken, ⟨stop, ending⟩, closed, trees⟩ :=
    Assembly.outcome_takeAll_eq_ok_iff.mp (congrArg Compilation.outcome compiled)
  have noted := Assembly.changes_takeAll taken (Cursor.itemize
    (Cursor.ofText (String.ofList (standard.redelimiting chosen)).toList) standard 0).ending
  rw [← compile, compiled] at noted
  have unlisted := Assembly.listed_foldlM taken
  rw [Assembly.listed, closed, List.reverse_eq_nil_iff.mp trees] at unlisted
  have reads := Cursor.sequenceReads_of_ending ending
  obtain ⟨placed, single, item⟩ := eq_singleton_of_chosen noted.symm unlisted.symm
  have whole : (Cursor.ofText (String.ofList (standard.redelimiting chosen)).toList).ahead =
      standard.redelimiting chosen := String.toList_ofList
  rw [single, whole] at reads
  generalize (Cursor.ofText _).position = start at reads
  generalize standard.redelimiting chosen = text at reads ⊢
  cases reads with
  | cons reads more =>
    cases more
    subst item
    rwa [List.append_nil]

/-- Delimiters that are accepted are two words, and the instruction begins like none that sets a
format. -/
theorem IsAccepted.spec (accepted : chosen.IsAccepted) :
    IsDefinition chosen.opening ∧ IsDefinition chosen.closing ∧
      ¬ BeginsDirective (chosen.opening ++ ' ' :: chosen.closing) := by
  have reads := accepted.reads
  generalize spelled : standard.redelimiting chosen = text at reads
  cases reads with
  | instruction reads =>
    obtain ⟨body, rfl, reached⟩ := reads
    cases reached with
    | redelimited blankFirst noDirective chooses =>
      rename_i first words
      have definesOpening : IsDefinition chosen.opening := by cases chooses; assumption
      have definesClosing : IsDefinition chosen.closing := by cases chooses; assumption
      simp only [redelimiting, instructionOpening, List.append_assoc, List.cons_append,
        List.nil_append, List.append_cancel_left_eq, List.cons.injEq, true_and] at spelled
      have stops := definesOpening.stops_isBlank
        (' ' :: (chosen.closing ++ '=' :: standard.closing))
      rw [spelled] at stops
      rw [blanks_eq_nil blankFirst stops, List.nil_append] at spelled
      refine ⟨definesOpening, definesClosing, ?_⟩
      rw [List.append_nil, ← spelled, ← List.cons_append, ← List.append_assoc,
        beginsDirective_append_iff] at noDirective
      exact noDirective

end Delimiters

/-! ### Tags behind the choice of their delimiters -/

/-- Behind the instruction that chooses delimiters, an insert that is written with them compiles to
the tree that it compiles to with the standard ones, unless the closing delimiter goes on with the
name or begins with a colon; the tags of a section do unless it goes on with the name. In all other
cases the template is at fault, whatever the delimiters are. -/
theorem redelimited_tags {chosen : Delimiters} {name : Name} (accepted : chosen.IsAccepted)
    (writable : name.IsWritable) :
    let plain (text : List Char) := (compile .standard (String.ofList text)).outcome
    let behind (text : List Char) := plain (Delimiters.standard.redelimiting chosen ++ text)
    (plain (Delimiters.standard.tag none name none) = .ok [.insert name none] ∧
      plain (Delimiters.standard.sectionTags name) = .ok [.block name false []]) ∧
    (name.EndsBefore chosen.closing ∧ Stops (· == ':') chosen.closing →
      behind (chosen.tag none name none) = plain (Delimiters.standard.tag none name none)) ∧
    (name.EndsBefore chosen.closing →
      behind (chosen.sectionTags name) = plain (Delimiters.standard.sectionTags name)) ∧
    (¬ (name.EndsBefore chosen.closing ∧ Stops (· == ':') chosen.closing) →
      ∃ fault, behind (chosen.tag none name none) = .error fault) ∧
    (¬ name.EndsBefore chosen.closing →
      ∃ fault, behind (chosen.sectionTags name) = .error fault) := by
  intro plain behind
  obtain ⟨definesOpening, definesClosing, noDirective⟩ := accepted.spec
  have alone (text : List Char) : behind text =
      outcomeBehind (Delimiters.standard.redelimiting chosen) []
        (compile chosen (String.ofList text)).outcome := by
    show (compile .standard (String.ofList _)).outcome = _
    rw [String.ofList_append]
    refine compile_redelimiting definesOpening definesClosing ?_
    rwa [← List.cons_append, ← List.append_assoc, beginsDirective_append_iff]
  have solid : Stops Text.isBlank chosen.closing := by
    have stops := definesClosing.stops_isBlank []
    rwa [List.append_nil] at stops
  have stops {accepts : Char → Bool} (refused : accepts '\x7d' = false) :
      Stops accepts Delimiters.standard.closing := by
    rintro _ ⟨⟩
    exact refused
  have insert : plain (Delimiters.standard.tag none name none) = .ok [.insert name none] :=
    compile_insertTag writable (stops (by decide)) (.inr (stops (by decide))) (stops (by decide))
  have sections : plain (Delimiters.standard.sectionTags name) = .ok [.block name false []] :=
    compile_sectionTags writable (stops (by decide)) (.inr (stops (by decide)))
  refine ⟨⟨insert, sections⟩, ?_, ?_, ?_, ?_⟩
  · rintro ⟨ends, noColon⟩
    rw [alone, insert, compile_insertTag writable solid ends noColon]
    rfl
  · intro ends
    rw [alone, sections, compile_sectionTags writable solid ends]
    rfl
  · intro clash
    obtain ⟨fault, failed⟩ := exists_fault_insertTag writable clash
    exact ⟨_, by rw [alone, failed]; rfl⟩
  · intro clash
    obtain ⟨fault, failed⟩ := exists_fault_sectionTags writable definesOpening definesClosing clash
    exact ⟨_, by rw [alone, failed]; rfl⟩

/-- A closing delimiter that begins with a colon ends the tags of a section and no insert. -/
theorem redelimited_tags_colon :
    let chosen : Delimiters := { opening := ['<'], closing := [':', '>'] }
    let name : Name := { segments := ["a", "b"] }
    let behind (text : List Char) :=
      (compile .standard (String.ofList (Delimiters.standard.redelimiting chosen ++ text))).outcome
    chosen.IsAccepted ∧ name.IsWritable ∧
      behind (chosen.sectionTags name) = .ok [.block name false []] ∧
      ∃ fault, behind (chosen.tag none name none) = .error fault := by
  have accepted : Delimiters.IsAccepted { opening := ['<'], closing := [':', '>'] } :=
    ⟨_, by with_unfolding_all rfl⟩
  intro chosen name behind
  have writable : name.IsWritable := by decide
  have ends : name.EndsBefore chosen.closing := .inr (by rintro _ ⟨⟩; decide)
  have colon : ¬ Stops (· == ':') chosen.closing := by simp [chosen]
  obtain ⟨⟨-, plain⟩, -, sections, inserts, -⟩ := redelimited_tags accepted writable
  exact ⟨accepted, writable, (sections ends).trans plain, inserts fun clear => colon clear.2⟩

/-- A closing delimiter that begins with a letter: the delimiters are accepted, but the letter is
taken for a part of the name in front of it, and the tag is at fault. -/
theorem letter_of_closing_taken_by_name :
    Delimiters.IsAccepted { opening := ['<'], closing := ['x', '>'] } ∧
      (compile .standard "\x7b\x7b=< x>=\x7d\x7d<ax>").outcome = .error {
        kind := .expectedClosing
        position := { line := 1, column := 13 }
        details := ["x>"] } ∧
      (compile .standard "\x7b\x7ba\x7d\x7d").outcome = .ok [.insert { segments := ["a"] } none] :=
  ⟨⟨_, by with_unfolding_all rfl⟩, by with_unfolding_all rfl, by with_unfolding_all rfl⟩

end Stencil
