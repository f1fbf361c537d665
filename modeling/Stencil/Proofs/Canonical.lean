/-
This file proves that the trees of a template are canonical, and that printing them changes nothing.

A literal text is read up to the next opening delimiter, so no opening delimiter begins in it, also
none that would be completed by the delimiter behind it, and what stands behind it is no literal
text. A literal text at the end of the template has nothing behind it and may break off inside of an
opening delimiter. Names and the types of formats are read as they can be written. All of this is
known of each item where it is read, and the listing of the trees hands it down to them: a literal
text inside a section always has the closing tag of the section behind it. Trees of this form are
printed as a text that is read as the same trees.
-/

import Stencil.Proofs.Reading.Boundary
import Stencil.Proofs.RoundTrip
import Stencil.Proofs.Soundness

namespace Stencil

/-- The trees of a template can stand one behind the other up to its end. Only a literal text at the
end may go on with a part of the opening delimiter, which nothing completes. -/
def Token.AllCanonical (delimiters : Delimiters) : List Token → Prop
  | [] => True
  | token :: rest =>
    token.PrintableBefore delimiters (delimiters.bound rest) ∧
      (token.isText = true → ∀ next ∈ rest.head?, next.isText = false) ∧
      AllCanonical delimiters rest

section Canonical

variable {delimiters : Delimiters}

/-! ### From the listing to the trees -/

namespace Token

theorem PrintableBefore.printable {token : Token} {α : Type} {behind : List α}
    (printable : token.PrintableBefore delimiters (delimiters.bound behind))
    (present : behind ≠ []) : token.Printable delimiters := by
  cases token with
  | text content =>
    obtain ⟨first, others, rfl⟩ := List.exists_cons_of_ne_nil present
    exact printable
  | _ => exact printable

theorem head?_listingAll (token : Token) (rest : List Token) (more : List Item) :
    ∃ first ∈ (listingAll (token :: rest) ++ more).head?, first.isText = token.isText := by
  rw [listingAll]
  cases token <;> exact ⟨_, rfl, rfl⟩

theorem bound_listingAll (tokens : List Token) :
    delimiters.bound (listingAll tokens) = delimiters.bound tokens := by
  cases tokens with
  | nil => rfl
  | cons token rest =>
    rw [listingAll]
    cases token <;> rfl

mutual

/-- A tree can be written in front of what its listing stands in front of. -/
theorem printableBefore_of_listing {token : Token} {more : List Item}
    (canonical : Item.AllCanonical delimiters (token.listing ++ more)) :
    token.PrintableBefore delimiters (delimiters.bound more) ∧
      (token.isText = true → ∀ next ∈ more.head?, next.isText = false) ∧
      Item.AllCanonical delimiters more := by
  cases token with
  | text content => exact canonical
  | insert name format => exact ⟨canonical.1, nofun, canonical.2.2⟩
  | setFormat typeName format => exact ⟨canonical.1, nofun, canonical.2.2⟩
  | block name inverted children =>
    rw [listing, List.cons_append, List.append_assoc] at canonical
    obtain ⟨writable, -, canonical⟩ := canonical
    obtain ⟨printable, closing⟩ := allPrintable_of_listingAll canonical (List.cons_ne_nil _ _)
    exact ⟨⟨writable, printable⟩, nofun, closing.2.2⟩

/-- Trees in front of more items can be written. -/
theorem allPrintable_of_listingAll {tokens : List Token} {more : List Item}
    (canonical : Item.AllCanonical delimiters (listingAll tokens ++ more)) (present : more ≠ []) :
    AllPrintable delimiters tokens ∧ Item.AllCanonical delimiters more := by
  cases tokens with
  | nil => exact ⟨trivial, canonical⟩
  | cons token tokens =>
    rw [listingAll, List.append_assoc] at canonical
    obtain ⟨printable, apart, canonical⟩ := printableBefore_of_listing canonical
    obtain ⟨printableMore, canonicalMore⟩ := allPrintable_of_listingAll canonical present
    refine ⟨⟨printable.printable (List.append_ne_nil_of_right_ne_nil _ present), ?_,
      printableMore⟩, canonicalMore⟩
    intro isText next member
    obtain ⟨others, rfl⟩ := List.head?_eq_some_iff.mp member
    obtain ⟨first, begins, same⟩ := head?_listingAll next others more
    rw [← same]
    exact apart isText first begins

end

/-- Trees are canonical where their listing is. -/
theorem allCanonical_listingAll_iff {tokens : List Token} :
    Item.AllCanonical delimiters (listingAll tokens) ↔ AllCanonical delimiters tokens := by
  induction tokens with
  | nil => exact Iff.rfl
  | cons token rest inductionHypothesis =>
    have apart : (∀ next ∈ (listingAll rest).head?, next.isText = false) ↔
        ∀ next ∈ rest.head?, next.isText = false := by
      cases rest with
      | nil => exact ⟨nofun, nofun⟩
      | cons next others =>
        obtain ⟨first, begins, same⟩ := head?_listingAll next others []
        rw [List.append_nil] at begins
        simp [Option.mem_def.mp begins, same]
    rw [listingAll, AllCanonical, ← inductionHypothesis, ← bound_listingAll, ← apart]
    constructor
    · exact printableBefore_of_listing
    · rintro ⟨printable, apart, canonical⟩
      exact canonical_listing printable canonical apart

end Token

/-! ### Items that are read -/

/-- An item that is read can be written in front of what it is read in front of. -/
theorem ItemReads.printableBefore {inside : Bool} {item : Item} {word rest : List Char}
    (reads : ItemReads delimiters inside item word rest) (tree : item.isRedelimited = false) :
    item.PrintableBefore delimiters rest := by
  have writable {mark : Option Char} {name : Name} {format : Option String} {word : List Char}
      (tag : TagSpelling delimiters mark name format word) : name.IsWritable := by
    cases tag with
    | parts _ writable => exact writable
  have bounded := reads.bounded
  cases reads.spelled with
  | text present => exact ⟨present, (bounded rfl).1⟩
  | insert tag => exact writable tag
  | opened tag => exact writable tag
  | closed tag => exact writable tag
  | setFormat _ begins =>
    cases begins with
    | parts identifier => exact identifier
  | redelimited => cases tree

/-- Items that are read up to the end of a text are canonical. -/
theorem SequenceReads.canonical {position : Position} {depth : Nat} {items : List PlacedItem}
    {text : List Char} (reads : SequenceReads [] position delimiters depth items text)
    (trees : ∀ placed ∈ items, placed.item.isRedelimited = false) :
    Item.AllCanonical delimiters (items.map PlacedItem.item) := by
  induction reads with
  | nil => trivial
  | cons reads more inductionHypothesis =>
    rename_i position delimiters depth item items word text
    obtain ⟨tree, treesMore⟩ := List.forall_mem_cons.mp trees
    have keeps : item.delimitersAfter delimiters = delimiters := by
      cases item <;> first | rfl | cases tree
    have canonical := inductionHypothesis treesMore
    rw [keeps] at more canonical
    rw [List.append_nil] at reads
    cases more with
    | nil => exact ⟨reads.printableBefore tree, nofun, trivial⟩
    | cons next more =>
      rename_i nextItem items nextWord text
      rw [List.append_nil] at next
      have begins (isText : item.isText = true) : delimiters.opening <+: nextWord ++ text := by
        refine (reads.bounded isText).2.resolve_left fun empty => ?_
        exact next.word_ne_nil (List.append_eq_nil_iff.mp empty).1
      have printable : item.PrintableBefore delimiters
          (delimiters.bound (nextItem :: items.map PlacedItem.item)) :=
        (Item.printableBefore_bound_iff (fun empty => absurd empty (List.cons_ne_nil _ _))
          fun isText _ => begins isText).mpr
          (reads.printableBefore tree)
      refine ⟨printable, fun isText first member => ?_, canonical⟩
      obtain rfl : nextItem = first := Option.some.inj member
      exact next.isText_eq_false (begins isText)

end Canonical

/-! ### The trees of a template -/

/-- The listing of the trees of a template is canonical, if the template changes no delimiters. -/
theorem canonical_of_compile {delimiters : Delimiters} {text : String} {tokens : List Token}
    (compiled : (compile delimiters text).outcome = .ok tokens)
    (unchanged : (compile delimiters text).changes = []) :
    Item.AllCanonical delimiters (Token.listingAll tokens) := by
  obtain ⟨final, taken, ⟨position, ending⟩, closed, trees⟩ :=
    Assembly.outcome_takeAll_eq_ok_iff.mp compiled
  have tree : ∀ placed ∈ ((Cursor.ofText text.toList).itemize delimiters 0).items,
      placed.item.isRedelimited = false := by
    have noted := Assembly.changes_takeAll taken
      ((Cursor.ofText text.toList).itemize delimiters 0).ending
    rw [← compile, unchanged] at noted
    intro placed member
    exact Item.isRedelimited_eq_false_iff.mpr
      (List.filterMap_eq_nil_iff.mp noted.symm placed member)
  have listed : ((Cursor.ofText text.toList).itemize delimiters 0).items.map PlacedItem.item =
      Token.listingAll tokens := by
    have listed := Assembly.listed_foldlM taken
    rw [Assembly.listed, closed, trees, List.filter_eq_self.mpr (by simpa using tree)] at listed
    exact listed.symm
  rw [← listed]
  exact (Cursor.sequenceReads_of_ending ending).canonical tree

/-- A template that compiles without a change of delimiters has canonical trees. Where the closing
delimiter goes on with no part of a tag, these are printed as a template that compiles to the same
trees. -/
theorem compile_canonical {delimiters : Delimiters} {text : String} {tokens : List Token}
    (compiled : (compile delimiters text).outcome = .ok tokens)
    (unchanged : (compile delimiters text).changes = []) :
    Token.AllCanonical delimiters tokens ∧
      (delimiters.ClosesApart →
        (compile delimiters (String.ofList (Token.printAll delimiters tokens))).outcome =
          .ok tokens) := by
  have canonical := canonical_of_compile compiled unchanged
  refine ⟨Token.allCanonical_listingAll_iff.mp canonical, fun apart => ?_⟩
  refine compile_canonical_spelling apart canonical ?_
  rw [String.toList_ofList]
  exact spelling_print canonical

/-- A blank in a tag, which is not printed again, and a brace at the end. -/
theorem compile_canonical_reprinted :
    let tokens : List Token :=
      [.block .self false [.text "x\x7b ", .insert .self none], .text "\x7b"]
    (compile .standard
        "\x7b\x7b#.\x7d\x7dx\x7b \x7b\x7b .\x7d\x7d\x7b\x7b/.\x7d\x7d\x7b").outcome = .ok tokens ∧
      Token.AllCanonical .standard tokens ∧
      (compile .standard (String.ofList (Token.printAll .standard tokens))).outcome =
        .ok tokens := by
  intro tokens
  have compiled : (compile .standard
      "\x7b\x7b#.\x7d\x7dx\x7b \x7b\x7b .\x7d\x7d\x7b\x7b/.\x7d\x7d\x7b").outcome = .ok tokens := by
    with_unfolding_all rfl
  have apart : Delimiters.standard.ClosesApart := by
    rintro _ ⟨⟩
    decide
  obtain ⟨canonical, reprinted⟩ := compile_canonical compiled (by with_unfolding_all rfl)
  exact ⟨compiled, canonical, reprinted apart⟩

/-- Where a template ends in a part of the opening delimiter, the delimiter begins in its last text
once it is put behind it. -/
theorem text_at_end_not_clear :
    (compile .standard "a\x7b").outcome = .ok [.text "a\x7b"] ∧
      (compile .standard "a\x7b").changes = [] ∧
      ¬ Delimiters.standard.Clear "a\x7b".toList Delimiters.standard.opening := by
  refine ⟨by with_unfolding_all rfl, by with_unfolding_all rfl, fun clear => ?_⟩
  exact absurd (clear ['a'] ['\x7b'] rfl) (by decide)

end Stencil
