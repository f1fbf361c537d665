/-
This file proves that names and their written forms correspond.

Cutting a path at its dots and joining the pieces undo each other, with two written forms apart: a
single dot stands for the innermost value itself, so it stands for no name of two empty segments,
and a segment that holds a dot is cut. The names that a reader makes have neither, for their
segments are identifiers. Between the standard delimiters any text may stand, with blanks, marks,
quotes and delimiters in it; an insert whose name is written like the whole of it is read from a
dot and from identifiers with dots between them only.
-/

import Stencil.Proofs.Blame
import Stencil.Proofs.Transparency

namespace Stencil

/-! ### Cutting and joining -/

namespace Name

theorem toList_toString_of_not_isSelf {name : Name} (notSelf : name.isSelf = false) :
    name.toString.toList = ['.'].intercalate (name.segments.map String.toList) := by
  rw [Name.toString, notSelf]
  exact String.toList_intercalate

/-- A path is the written form of the name that is read from it. -/
theorem toString_dotted (path : String) : (dotted path).toString = path := by
  by_cases isDot : path = "."
  · rw [isDot]
    rfl
  · have pieces : (dotted path).segments.map String.toList = path.toList.splitOn '.' := by
      rw [dotted, if_neg isDot, List.map_map,
        show String.toList ∘ String.ofList = id from funext fun _ => String.toList_ofList,
        List.map_id]
    have notSelf : (dotted path).isSelf = false := by
      rw [isSelf, List.isEmpty_eq_false_iff]
      intro empty
      rw [empty] at pieces
      exact List.splitOn_ne_nil '.' path.toList pieces.symm
    refine String.toList_injective ?_
    rw [toList_toString_of_not_isSelf notSelf, pieces, List.intercalate_splitOn]

/-- A name without dots in its segments is read from its written form, unless that is the form of
the innermost value itself. -/
theorem dotted_toString {name : Name} (plain : ∀ segment ∈ name.segments, '.' ∉ segment.toList)
    (other : name.segments ≠ ["", ""]) : dotted name.toString = name := by
  cases self : name.isSelf with
  | true =>
    rw [eq_self_of_isSelf self]
    rfl
  | false =>
    have cut : name.toString.toList.splitOn '.' = name.segments.map String.toList := by
      rw [toList_toString_of_not_isSelf self]
      refine List.splitOn_intercalate '.' (by simpa using plain) ?_
      rw [Ne, List.map_eq_nil_iff]
      exact List.isEmpty_eq_false_iff.mp self
    have notDot : name.toString ≠ "." := by
      intro isDot
      rw [isDot] at cut
      have empties : name.segments.map String.toList = ["", ""].map String.toList := cut.symm
      exact other ((List.map_inj_right fun _ _ => String.toList_inj.mp).mp empties)
    obtain ⟨segments⟩ := name
    rw [dotted, if_neg notDot, cut, List.map_map,
      show String.ofList ∘ String.toList = id from funext fun _ => String.ofList_toList,
      List.map_id]

end Name

/-! ### Names that are read -/

/-- An identifier, or identifiers with dots between them. -/
inductive DottedIdentifiers : List Char → Prop where
  | single {word : List Char} (identifier : IsIdentifier word) : DottedIdentifiers word
  | cons {word rest : List Char} (identifier : IsIdentifier word)
      (more : DottedIdentifiers rest) : DottedIdentifiers (word ++ '.' :: rest)

/-- The name in an item, if it is a tag. -/
def Item.name? : Item → Option Name
  | insert name _ | opened name _ | closed name => some name
  | _ => none

theorem Item.Spelled.writable {delimiters : Delimiters} {item : Item} {word : List Char}
    {name : Name} (spelled : item.Spelled delimiters word) (named : item.name? = some name) :
    name.IsWritable := by
  cases spelled with
  | insert tag | opened tag | closed tag =>
    cases named
    exact tag.writable
  | text | setFormat | redelimited => cases named

theorem SequenceReads.writable {rest : List Char} {position : Position} {delimiters : Delimiters}
    {depth : Nat} {items : List PlacedItem} {text : List Char}
    (reads : SequenceReads rest position delimiters depth items text) :
    ∀ placed ∈ items, ∀ name, placed.item.name? = some name → name.IsWritable := by
  induction reads with
  | nil => exact List.forall_mem_nil _
  | cons reads more inductionHypothesis =>
    exact List.forall_mem_cons.mpr
      ⟨fun name named => reads.spelled.writable named, inductionHypothesis⟩

namespace Name

/-- A name stands in a tag that is cut from a text, whether or not the text compiles. -/
def IsRead (name : Name) : Prop :=
  ∃ (delimiters : Delimiters) (text : String),
    ∃ placed ∈ ((Cursor.ofText text.toList).itemize delimiters 0).items,
      placed.item.name? = some name

theorem IsRead.isWritable {name : Name} (read : name.IsRead) : name.IsWritable := by
  obtain ⟨delimiters, text, placed, member, named⟩ := read
  obtain ⟨_, _, -, reads, -⟩ := Cursor.exists_sequence (Cursor.ofText text.toList) delimiters 0
  exact reads.writable placed member name named

/-- The written forms of names are a dot, and identifiers with dots between them. -/
theorem exists_isWritable_iff {path : String} :
    (∃ name : Name, name.IsWritable ∧ name.toString = path) ↔
      path = "." ∨ DottedIdentifiers path.toList := by
  constructor
  · rintro ⟨⟨segments⟩, writable, rfl⟩
    cases segments with
    | nil => exact .inl rfl
    | cons segment segments =>
      refine .inr ?_
      rw [toList_toString_cons]
      obtain ⟨identifier, identifiers⟩ := List.forall_mem_cons.mp writable
      clear writable
      induction segments generalizing segment with
      | nil =>
        rw [dottedTail, List.flatMap_nil, List.append_nil]
        exact .single identifier
      | cons next segments inductionHypothesis =>
        obtain ⟨nextIdentifier, identifiers⟩ := List.forall_mem_cons.mp identifiers
        show DottedIdentifiers (segment.toList ++ '.' :: (next.toList ++ dottedTail segments))
        exact .cons identifier (inductionHypothesis next nextIdentifier identifiers)
  · rintro (rfl | dotted)
    · exact ⟨.self, List.forall_mem_nil _, rfl⟩
    · suffices form : ∃ segment segments,
          (∀ part ∈ segment :: segments, IsIdentifier part.toList) ∧
            segment.toList ++ dottedTail segments = path.toList by
        obtain ⟨segment, segments, writable, spelled⟩ := form
        exact ⟨⟨segment :: segments⟩, writable,
          String.toList_injective ((toList_toString_cons segment segments).trans spelled)⟩
      generalize path.toList = text at dotted
      induction dotted with
      | @single word identifier =>
        refine ⟨String.ofList word, [], ?_, ?_⟩
        · exact List.forall_mem_singleton.mpr (by rwa [String.toList_ofList])
        · rw [String.toList_ofList, dottedTail, List.flatMap_nil, List.append_nil]
      | @cons word rest identifier more inductionHypothesis =>
        obtain ⟨segment, segments, writable, rfl⟩ := inductionHypothesis
        refine ⟨String.ofList word, segment :: segments, ?_, ?_⟩
        · exact List.forall_mem_cons.mpr ⟨by rwa [String.toList_ofList], writable⟩
        · rw [String.toList_ofList]
          rfl

/-- A name that can be written is read from its written form. -/
theorem IsWritable.dotted_toString {name : Name} (writable : name.IsWritable) :
    dotted name.toString = name := by
  refine Name.dotted_toString (fun segment member holdsDot => ?_) fun empties => ?_
  · exact absurd ((writable segment member).2 '.' holdsDot) (by decide)
  · exact (writable "" (by simp [empties])).1 rfl

/-- The name of an insert that is the whole of a template is read. -/
theorem isRead_of_compile {delimiters : Delimiters} {text : String} {name : Name}
    {format : Option String}
    (compiled : (compile delimiters text).outcome = .ok [.insert name format]) : name.IsRead := by
  obtain ⟨-, listed⟩ := reads_of_compile compiled
  have member : Item.insert name format ∈ Token.listingAll [.insert name format] :=
    List.mem_singleton_self _
  rw [← listed] at member
  obtain ⟨placed, inItems, same⟩ := List.mem_map.mp (List.mem_filter.mp member).1
  exact ⟨delimiters, text, placed, inItems, by rw [same]; rfl⟩

/-! ### Names and their written forms -/

/-- Between the standard delimiters the written form of a name is read as that name. -/
theorem compile_written {name : Name} (writable : name.IsWritable) :
    (compile .standard ("\x7b\x7b" ++ name.toString ++ "\x7d\x7d")).outcome =
      .ok [.insert name none] := by
  have spelled : "\x7b\x7b" ++ name.toString ++ "\x7d\x7d" =
      String.ofList (Delimiters.standard.tag none name none) :=
    String.toList_injective (by simp [Delimiters.tag, Delimiters.standard])
  have stops {accepts : Char → Bool} (refuses : accepts '\x7d' = false) :
      Stops accepts Delimiters.standard.closing := Stops.cons_iff.mpr refuses
  rw [spelled]
  exact compile_insertTag writable (stops (by decide)) (.inr (stops (by decide)))
    (stops (by decide))

/-- Names and their written forms correspond. Every path is the written form of the name that it is
cut into. A name without dots in its segments is cut again from its written form, unless it has
just two empty segments; so names that are read are told apart by their written forms. Between the
standard delimiters stands an insert without a format whose name is written like the whole of the
path just if the path is a dot or consists of identifiers with dots between them, and then the name
is the one that the path is cut into. -/
theorem dotted_corresponds :
    (∀ path, (dotted path).toString = path) ∧
      (∀ name : Name, (∀ segment ∈ name.segments, '.' ∉ segment.toList) →
        name.segments ≠ ["", ""] → dotted name.toString = name) ∧
      (∀ first second : Name, first.IsRead → second.IsRead →
        (first = second ↔ first.toString = second.toString)) ∧
      ∀ path : String,
        let outcome := (compile .standard ("\x7b\x7b" ++ path ++ "\x7d\x7d")).outcome
        ((∃ name : Name, outcome = .ok [.insert name none] ∧ name.toString = path) ↔
          path = "." ∨ DottedIdentifiers path.toList) ∧
        ∀ name : Name, outcome = .ok [.insert name none] → name.toString = path →
          name = dotted path := by
  refine ⟨toString_dotted, fun name => dotted_toString, ?_, fun path => ⟨?_, ?_⟩⟩
  · intro first second firstRead secondRead
    exact ⟨congrArg _, eq_of_toString_eq firstRead.isWritable secondRead.isWritable⟩
  · rw [← exists_isWritable_iff]
    constructor
    · rintro ⟨name, compiled, written⟩
      exact ⟨name, (isRead_of_compile compiled).isWritable, written⟩
    · rintro ⟨name, writable, rfl⟩
      exact ⟨name, compile_written writable, rfl⟩
  · rintro name compiled rfl
    exact (isRead_of_compile compiled).isWritable.dotted_toString.symm

end Name

end Stencil
