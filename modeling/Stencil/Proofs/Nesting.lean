/-
This file proves how items are put together to trees.

An assembly that has taken items lists them: the trees that came before each open section, the
tag that opened it, and the trees on the innermost level are laid out as the items that were
taken, apart from the choices of delimiters, which are in no tree. Every item that is taken
keeps this, so a list of trees that is put together lists exactly its items, and their tags
match because every closing tag was checked against the innermost open section.
-/

import Stencil.Proofs.Grammar

namespace Stencil

/-! ### Taking items -/

namespace Assembly

/-- Taking all items gives the trees that come of taking one after the other, or the first
fault. -/
theorem outcome_takeAll (assembly : Assembly) (ending : Except ParseError Position)
    (items : List PlacedItem) :
    (assembly.takeAll ending items).outcome =
      (items.foldlM take assembly).bind fun final => final.finish ending := by
  induction items generalizing assembly with
  | nil => rfl
  | cons placed items inductionHypothesis =>
    rw [takeAll, List.foldlM_cons]
    cases taken : assembly.take placed with
    | error fault => rfl
    | ok next => exact inductionHypothesis next

/-- A closing tag is taken where it names the innermost open section; the section becomes a
tree on the level around it. -/
theorem exists_of_take_closed {assembly next : Assembly} {name : Name} {start stop : Position}
    (taken : assembly.take { item := .closed name, start, stop } = .ok next) :
    ∃ innermost around, assembly.around = innermost :: around ∧ name = innermost.name ∧
      next = { assembly with
        level := .block innermost.name innermost.inverted assembly.level.reverse ::
          innermost.before
        around } := by
  simp only [take] at taken
  split at taken
  · cases taken
  · rename_i innermost around opened
    split at taken
    · rename_i same
      cases taken
      exact ⟨innermost, around, opened, same, rfl⟩
    · cases taken

theorem foldlM_take_cons_iff {assembly final : Assembly} {placed : PlacedItem}
    {items : List PlacedItem} :
    (placed :: items).foldlM take assembly = .ok final ↔
      ∃ next, assembly.take placed = .ok next ∧ items.foldlM take next = .ok final := by
  rw [List.foldlM_cons]
  cases assembly.take placed with
  | error fault => exact ⟨nofun, nofun⟩
  | ok next =>
    constructor
    · exact fun taken => ⟨next, rfl, taken⟩
    · rintro ⟨_, ⟨⟩, taken⟩
      exact taken

end Assembly

/-! ### The items of an assembly -/

namespace Token

theorem listingAll_append (first second : List Token) :
    listingAll (first ++ second) = listingAll first ++ listingAll second := by
  induction first with
  | nil => rfl
  | cons token first inductionHypothesis =>
    rw [List.cons_append, listingAll, listingAll, inductionHypothesis, List.append_assoc]

theorem listingAll_singleton (token : Token) : listingAll [token] = listing token := by
  rw [listingAll, listingAll, List.append_nil]

end Token

/-- The delimiters that an item chooses, if it chooses any. -/
def Item.chosen? : Item → Option Delimiters
  | redelimited chosen => some chosen
  | _ => none

theorem Item.isRedelimited_eq_false_iff {item : Item} :
    item.isRedelimited = false ↔ item.chosen? = none := by
  cases item <;> simp [isRedelimited, chosen?]

/-- The items up to an open section, from the tag that opened the section around it. -/
def OpenSection.listed (opened : OpenSection) : List Item :=
  Token.listingAll opened.before.reverse ++ [.opened opened.name opened.inverted]

namespace Assembly

/-- The items that an assembly has taken, apart from the choices of delimiters. -/
def listed (assembly : Assembly) : List Item :=
  assembly.around.reverse.flatMap OpenSection.listed ++
    Token.listingAll assembly.level.reverse

/-- The names of the open sections, the innermost one first. -/
def openNames (assembly : Assembly) : List Name := assembly.around.map OpenSection.name

theorem listed_add (assembly : Assembly) (token : Token) :
    (assembly.add token).listed = assembly.listed ++ token.listing := by
  simp [add, listed, Token.listingAll_append, Token.listingAll_singleton]

/-- An item that is taken is listed behind the others, unless it chooses delimiters. -/
theorem listed_take {assembly next : Assembly} {placed : PlacedItem}
    (taken : assembly.take placed = .ok next) :
    next.listed = assembly.listed ++ [placed.item].filter fun item => !item.isRedelimited := by
  obtain ⟨item, start, stop⟩ := placed
  cases item with
  | text content => cases taken; exact listed_add _ _
  | insert name format => cases taken; exact listed_add _ _
  | setFormat typeName format => cases taken; exact listed_add _ _
  | redelimited chosen =>
    cases taken
    exact (List.append_nil _).symm
  | opened name inverted =>
    cases taken
    simp [listed, OpenSection.listed, Item.isRedelimited, Token.listingAll]
  | closed name =>
    obtain ⟨innermost, around, opened, rfl, rfl⟩ := exists_of_take_closed taken
    simp [listed, opened, OpenSection.listed, Item.isRedelimited, Token.listingAll_append,
      Token.listingAll_singleton, Token.listing]

/-- The items that are taken are listed in their order, without the choices of delimiters. -/
theorem listed_foldlM {assembly final : Assembly} {items : List PlacedItem}
    (taken : items.foldlM take assembly = .ok final) :
    final.listed = assembly.listed ++
      (items.map PlacedItem.item).filter fun item => !item.isRedelimited := by
  induction items generalizing assembly with
  | nil =>
    cases taken
    exact (List.append_nil _).symm
  | cons placed items inductionHypothesis =>
    obtain ⟨next, step, taken⟩ := foldlM_take_cons_iff.mp taken
    rw [inductionHypothesis taken, listed_take step, List.append_assoc, ← List.filter_append]
    rfl

/-! ### Matching tags -/

/-- An item that is taken matches the open sections, and leaves open those that the items
behind it have to match. -/
theorem nested_take {assembly next : Assembly} {placed : PlacedItem}
    (taken : assembly.take placed = .ok next) (rest : List Item) :
    Nested assembly.openNames (placed.item :: rest) ↔ Nested next.openNames rest := by
  obtain ⟨item, start, stop⟩ := placed
  obtain ⟨delimiters, level, around, changes⟩ := assembly
  cases item with
  | text content => cases taken; cases around <;> rfl
  | insert name format => cases taken; cases around <;> rfl
  | setFormat typeName format => cases taken; cases around <;> rfl
  | redelimited chosen => cases taken; cases around <;> rfl
  | opened name inverted => cases taken; cases around <;> rfl
  | closed name =>
    obtain ⟨innermost, beneath, rfl, rfl, rfl⟩ := exists_of_take_closed taken
    exact and_iff_right rfl

/-- The tags of the items that are taken match as far as the open sections go. -/
theorem nested_foldlM {assembly final : Assembly} {items : List PlacedItem}
    (taken : items.foldlM take assembly = .ok final) (rest : List Item) :
    Nested assembly.openNames (items.map PlacedItem.item ++ rest) ↔
      Nested final.openNames rest := by
  induction items generalizing assembly with
  | nil =>
    cases taken
    rfl
  | cons placed items inductionHypothesis =>
    obtain ⟨next, step, taken⟩ := foldlM_take_cons_iff.mp taken
    exact (nested_take step _).trans (inductionHypothesis taken)

/-- An item that is taken leaves as many sections open as it says. -/
theorem length_around_take {assembly next : Assembly} {placed : PlacedItem}
    (taken : assembly.take placed = .ok next) :
    next.around.length = placed.item.depthAfter assembly.around.length := by
  obtain ⟨item, start, stop⟩ := placed
  cases item with
  | text content => cases taken; rfl
  | insert name format => cases taken; rfl
  | setFormat typeName format => cases taken; rfl
  | redelimited chosen => cases taken; rfl
  | opened name inverted => cases taken; rfl
  | closed name =>
    obtain ⟨innermost, beneath, opened, rfl, rfl⟩ := exists_of_take_closed taken
    simp [opened, Item.depthAfter]

/-! ### Changes of delimiters -/

/-- The changes that are noted while all items are taken are the choices of delimiters among the
items. -/
theorem changes_takeAll {assembly final : Assembly} {items : List PlacedItem}
    (taken : items.foldlM take assembly = .ok final) (ending : Except ParseError Position) :
    (assembly.takeAll ending items).changes.map DelimiterChange.new =
      assembly.changes.reverse.map DelimiterChange.new ++
        items.filterMap fun placed => placed.item.chosen? := by
  induction items generalizing assembly with
  | nil =>
    cases taken
    exact (List.append_nil _).symm
  | cons placed items inductionHypothesis =>
    obtain ⟨next, step, taken⟩ := foldlM_take_cons_iff.mp taken
    rw [takeAll, step]
    refine (inductionHypothesis taken).trans ?_
    obtain ⟨item, start, stop⟩ := placed
    cases item with
    | redelimited chosen =>
      cases step
      simp [Item.chosen?]
    | closed name =>
      obtain ⟨_, _, -, -, rfl⟩ := exists_of_take_closed step
      rfl
    | _ =>
      cases step
      rfl

/-! ### Finishing -/

/-- An assembly comes to trees where the text has ended and no section is open. -/
theorem finish_eq_ok_iff {assembly : Assembly} {ending : Except ParseError Position}
    {tokens : List Token} :
    assembly.finish ending = .ok tokens ↔
      (∃ position, ending = .ok position) ∧ assembly.around = [] ∧
        assembly.level.reverse = tokens := by
  obtain ⟨delimiters, level, around, changes⟩ := assembly
  cases ending with
  | error fault => simp [finish]
  | ok position => cases around <;> simp [finish]

/-- Where all items are put together to trees, the text had ended and every item was taken. -/
theorem outcome_takeAll_eq_ok_iff {assembly : Assembly} {ending : Except ParseError Position}
    {items : List PlacedItem} {tokens : List Token} :
    (assembly.takeAll ending items).outcome = .ok tokens ↔
      ∃ final, items.foldlM take assembly = .ok final ∧ (∃ position, ending = .ok position) ∧
        final.around = [] ∧ final.level.reverse = tokens := by
  rw [outcome_takeAll]
  cases items.foldlM take assembly with
  | error fault => exact ⟨nofun, nofun⟩
  | ok final =>
    rw [Except.bind, finish_eq_ok_iff]
    constructor
    · exact fun finished => ⟨final, rfl, finished⟩
    · rintro ⟨_, ⟨⟩, finished⟩
      exact finished

/-! ### Trees -/

mutual

/-- The items of a tree are put together to the tree. -/
theorem foldlM_take_listing (token : Token) (assembly : Assembly) {items : List PlacedItem}
    (listed : items.map PlacedItem.item = token.listing) :
    items.foldlM take assembly = .ok (assembly.add token) := by
  cases token with
  | text content =>
    obtain ⟨⟨item, start, stop⟩, rfl, rfl⟩ := List.map_eq_singleton_iff.mp listed
    rfl
  | insert name format =>
    obtain ⟨⟨item, start, stop⟩, rfl, rfl⟩ := List.map_eq_singleton_iff.mp listed
    rfl
  | setFormat typeName format =>
    obtain ⟨⟨item, start, stop⟩, rfl, rfl⟩ := List.map_eq_singleton_iff.mp listed
    rfl
  | block name inverted children =>
    obtain ⟨opened, behind, rfl, opens, listedBehind⟩ := List.map_eq_cons_iff.mp listed
    obtain ⟨inner, last, rfl, listedInner, listedLast⟩ := List.map_eq_append_iff.mp listedBehind
    obtain ⟨closed, rfl, closes⟩ := List.map_eq_singleton_iff.mp listedLast
    rw [foldlM_take_cons_iff]
    refine ⟨{ assembly with
      level := []
      around := { name, inverted, before := assembly.level } :: assembly.around }, ?_, ?_⟩
    · rw [take, opens]
    · rw [List.foldlM_append, foldlM_take_listingAll children _ listedInner]
      refine foldlM_take_cons_iff.mpr ⟨_, ?_, rfl⟩
      simp [take, closes, add]

/-- The items of a list of trees are put together to the trees, one behind the other. -/
theorem foldlM_take_listingAll (tokens : List Token) (assembly : Assembly)
    {items : List PlacedItem} (listed : items.map PlacedItem.item = Token.listingAll tokens) :
    items.foldlM take assembly =
      .ok { assembly with level := tokens.reverse ++ assembly.level } := by
  cases tokens with
  | nil =>
    obtain rfl : items = [] := List.map_eq_nil_iff.mp listed
    rfl
  | cons token tokens =>
    obtain ⟨first, behind, rfl, listedFirst, listedBehind⟩ := List.map_eq_append_iff.mp listed
    rw [List.foldlM_append, foldlM_take_listing token assembly listedFirst]
    refine (foldlM_take_listingAll tokens _ listedBehind).trans ?_
    simp [add]

end

end Assembly

namespace Token

theorem exists_placed (items : List Item) :
    ∃ placed : List PlacedItem, placed.map PlacedItem.item = items := by
  refine ⟨items.map fun item => { item, start := .start, stop := .start }, ?_⟩
  rw [List.map_map]
  exact List.map_id items

/-- The tags in the listing of trees match. -/
theorem nested_listingAll (tokens : List Token) : Nested [] (listingAll tokens) := by
  obtain ⟨items, listed⟩ := exists_placed (listingAll tokens)
  have taken := Assembly.foldlM_take_listingAll tokens { delimiters := .standard } listed
  have nested := (Assembly.nested_foldlM taken []).mpr trivial
  rwa [List.append_nil, listed] at nested

end Token

end Stencil
