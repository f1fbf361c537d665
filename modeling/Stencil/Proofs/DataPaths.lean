/-
This file proves that a name reaches in the value of some data what it reaches in the data.

Data are walked along a name segment by segment: in a mapping a segment is a key, in a list it is
a numeral, which writes an index. What data become is built from what their parts become, item by
item and entry by entry, with the keys as they were; so each step in the data is a step in the
value, and the look-up of the name ends there without asking the scopes further out.
-/

import Mathlib.Data.List.Forall2
import Stencil.Datum
import Stencil.Proofs.Indices

namespace Stencil

/-! ### Lists side by side -/

section Forall₂

variable {α β γ δ : Type} {related : α → β → Prop} {items : List α} {values : List β}

theorem exists_getElem?_of_forall₂ (each : List.Forall₂ related items values) {index : Nat}
    {item : α} (inside : items[index]? = some item) :
    ∃ value, values[index]? = some value ∧ related item value := by
  obtain ⟨bound, rfl⟩ := List.getElem?_eq_some_iff.mp inside
  have within : index < values.length := each.length_eq ▸ bound
  exact ⟨values[index], List.getElem?_eq_getElem within, each.get bound within⟩

theorem exists_mem_of_forall₂ (each : List.Forall₂ related items values) {item : α}
    (member : item ∈ items) : ∃ value ∈ values, related item value := by
  obtain ⟨index, inside⟩ := List.mem_iff_getElem?.mp member
  obtain ⟨value, found, same⟩ := exists_getElem?_of_forall₂ each inside
  exact ⟨value, List.mem_of_getElem? found, same⟩

/-- Something is in the one of two lists where its like is in the other. -/
theorem exists_mem_iff_of_forall₂ {holds : α → Prop} {holdsOther : β → Prop}
    (each : List.Forall₂ (fun item value => holds item ↔ holdsOther value) items values) :
    (∃ item ∈ items, holds item) ↔ ∃ value ∈ values, holdsOther value := by
  constructor
  · rintro ⟨item, member, here⟩
    obtain ⟨value, inside, same⟩ := exists_mem_of_forall₂ each member
    exact ⟨value, inside, same.mp here⟩
  · rintro ⟨value, member, here⟩
    obtain ⟨item, inside, same⟩ := exists_mem_of_forall₂ each.flip member
    exact ⟨item, inside, same.mpr here⟩

/-- Two lists show the same where each two of their items do. -/
theorem map_eq_map_iff {show₁ : α → γ} {show₂ : β → γ} :
    items.map show₁ = values.map show₂ ↔
      List.Forall₂ (fun item value => show₁ item = show₂ value) items values := by
  rw [← List.forall₂_eq_eq_eq, List.forall₂_map_left_iff, List.forall₂_map_right_iff]

/-- What is found for the items one by one, side by side with others, is found for the lists. -/
theorem exists_forall₂ {becomes : α → γ → Prop} {becomesOther : β → δ → Prop}
    {alike : γ → δ → Prop} {firsts : List γ} (each : List.Forall₂ related items values)
    (become : List.Forall₂ becomes items firsts)
    (step : ∀ item value first, related item value → becomes item first →
      ∃ second, becomesOther value second ∧ alike first second) :
    ∃ seconds, List.Forall₂ becomesOther values seconds ∧ List.Forall₂ alike firsts seconds := by
  induction each generalizing firsts with
  | nil =>
    cases become
    exact ⟨[], .nil, .nil⟩
  | cons here _ inductionHypothesis =>
    cases become with
    | cons head tail =>
      obtain ⟨second, becomesSecond, alikeSecond⟩ := step _ _ _ here head
      obtain ⟨seconds, becomeSeconds, alikeSeconds⟩ := inductionHypothesis tail
      exact ⟨second :: seconds, .cons becomesSecond becomeSeconds, .cons alikeSecond alikeSeconds⟩

end Forall₂

/-! ### What data become -/

theorem Key.written_eq_ok_iff {key : Key} {name : String} :
    key.written = .ok name ↔ key.isTooLong = false ∧ key.display = name := by
  rw [written]
  cases key.isTooLong <;> simp

namespace Datum

/-- A list becomes the list of what its items become. -/
theorem toValues_eq_ok_iff {items : List Datum} {values : List Value} :
    toValues items = .ok values ↔
      List.Forall₂ (fun item value => item.toValue = .ok value) items values := by
  induction items generalizing values with
  | nil =>
    rw [toValues, List.forall₂_nil_left_iff]
    exact ⟨fun same => by injection same with same; exact same.symm, fun same => same ▸ rfl⟩
  | cons first rest inductionHypothesis =>
    rw [toValues, List.forall₂_cons_left_iff]
    constructor
    · intro accepted
      cases head : first.toValue with
      | error refusal =>
        rw [head] at accepted
        cases accepted
      | ok value =>
        rw [head] at accepted
        obtain ⟨others, tail, rfl⟩ := map_eq_ok accepted
        exact ⟨value, others, rfl, inductionHypothesis.mp tail, rfl⟩
    · rintro ⟨value, others, head, tail, rfl⟩
      rw [head, inductionHypothesis.mpr tail]
      rfl

/-- An entry of a mapping becomes what stands under its key, under the text of the key. -/
def Becomes (entry : Key × Datum) (pair : String × Value) : Prop :=
  entry.1.written = .ok pair.1 ∧ entry.2.toValue = .ok pair.2

/-- A mapping becomes the map of what its entries become. -/
theorem toPairs_eq_ok_iff {entries : List (Key × Datum)} {pairs : List (String × Value)} :
    toPairs entries = .ok pairs ↔ List.Forall₂ Becomes entries pairs := by
  induction entries generalizing pairs with
  | nil =>
    rw [toPairs, List.forall₂_nil_left_iff]
    exact ⟨fun same => by injection same with same; exact same.symm, fun same => same ▸ rfl⟩
  | cons first rest inductionHypothesis =>
    obtain ⟨key, datum⟩ := first
    rw [toPairs, List.forall₂_cons_left_iff]
    constructor
    · intro accepted
      cases text : key.written with
      | error refusal =>
        rw [text] at accepted
        cases accepted
      | ok name =>
        cases head : datum.toValue with
        | error refusal =>
          rw [text, head] at accepted
          cases accepted
        | ok value =>
          rw [text, head] at accepted
          obtain ⟨others, tail, rfl⟩ := map_eq_ok accepted
          exact ⟨(name, value), others, ⟨text, head⟩, inductionHypothesis.mp tail, rfl⟩
    · rintro ⟨⟨name, value⟩, others, ⟨text, head⟩, tail, rfl⟩
      rw [text, head, inductionHypothesis.mpr tail]
      rfl

/-- What a mapping becomes has the texts of its keys, in their order. -/
theorem keys_eq_of_toPairs {entries : List (Key × Datum)} {pairs : List (String × Value)}
    (accepted : toPairs entries = .ok pairs) :
    Entries.keys pairs = entries.map fun entry => entry.1.display := by
  refine (map_eq_map_iff.mpr ?_).symm
  exact (toPairs_eq_ok_iff.mp accepted).imp fun _ _ both => (Key.written_eq_ok_iff.mp both.1).2

/-! ### Native data -/

/-- The keys of a mapping are texts, and each of them stands in it once. -/
def KeyedByTexts (entries : List (Key × Datum)) : Prop :=
  ∃ names : List String, names.Nodup ∧ entries.map Prod.fst = names.map Key.text

/-- Plain data, formattable values and values that have been built already, and lists of native data
and mappings from texts to them. -/
inductive IsNative : Datum → Prop where
  | none : IsNative .none
  | bool (value : Bool) : IsNative (.bool value)
  | text (value : String) : IsNative (.text value)
  | integer (value : Int) : IsNative (.integer value)
  | real (value : Number.Binary64) : IsNative (.real value)
  | formattable (object : Formattable) : IsNative (.formattable object)
  | built (value : Value) : IsNative (.built value)
  | sequence {items : List Datum} (each : ∀ item ∈ items, IsNative item) :
      IsNative (.sequence items)
  | mapping {entries : List (Key × Datum)} (keyed : KeyedByTexts entries)
      (each : ∀ entry ∈ entries, IsNative entry.2) : IsNative (.mapping entries)

/-- A path leads from data to a part of them: from a mapping by a key that is there, and from a
list by a numeral, of at most as many digits as are converted, for an index inside it. -/
inductive Leads : Datum → List String → Datum → Prop where
  | here (datum : Datum) : Leads datum [] datum
  | entry {entries : List (Key × Datum)} {segment : String} {part reached : Datum}
      {path : List String} (present : (Key.text segment, part) ∈ entries)
      (further : Leads part path reached) : Leads (.mapping entries) (segment :: path) reached
  | item {items : List Datum} {segment : String} {index : Nat} {part reached : Datum}
      {path : List String} (denotes : Denotes segment index)
      (short : segment.length ≤ Number.maxDigits) (inside : items[index]? = some part)
      (further : Leads part path reached) : Leads (.sequence items) (segment :: path) reached

/-- The texts that are the keys of a mapping are the keys of what it becomes. -/
theorem KeyedByTexts.nodup_keys {entries : List (Key × Datum)} {pairs : List (String × Value)}
    (keyed : KeyedByTexts entries) (accepted : toPairs entries = .ok pairs) :
    (Entries.keys pairs).Nodup := by
  obtain ⟨names, unique, texts⟩ := keyed
  have shown : (entries.map Prod.fst).map Key.display = names := by
    rw [texts, List.map_map]
    exact List.map_id names
  rw [List.map_map] at shown
  rw [keys_eq_of_toPairs accepted]
  exact shown ▸ unique

/-- A path in data leads to the same part in what the data become. -/
theorem Leads.toValue {datum reached : Datum} {path : List String}
    (leads : datum.Leads path reached) (native : datum.IsNative) {value : Value}
    (accepted : datum.toValue = .ok value) :
    ∃ inner, reached.toValue = .ok inner ∧ value.Leads path inner := by
  induction leads generalizing value with
  | here => exact ⟨value, accepted, .here value⟩
  | entry present _ inductionHypothesis =>
    obtain ⟨keyed, each⟩ : KeyedByTexts _ ∧ _ := by
      cases native with
      | mapping keyed each => exact ⟨keyed, each⟩
    rw [Datum.toValue] at accepted
    obtain ⟨pairs, parts, rfl⟩ := map_eq_ok accepted
    have unique := keyed.nodup_keys parts
    obtain ⟨⟨name, part⟩, member, text, become⟩ :=
      exists_mem_of_forall₂ (toPairs_eq_ok_iff.mp parts) present
    cases text
    obtain ⟨inner, ending, further⟩ := inductionHypothesis (each _ present) become
    refine ⟨inner, ending, .entry ?_ further⟩
    rw [Entries.ofPairs_of_nodup unique]
    exact (Entries.find?_eq_some_iff unique).mpr member
  | @item items _ _ part _ _ denotes short inside _ inductionHypothesis =>
    rw [Datum.toValue] at accepted
    obtain ⟨values, parts, rfl⟩ := map_eq_ok accepted
    obtain ⟨value, within, become⟩ :=
      exists_getElem?_of_forall₂ (toValues_eq_ok_iff.mp parts) inside
    have nativePart : part.IsNative := by
      cases native with
      | sequence each => exact each _ (List.mem_of_getElem? inside)
    obtain ⟨inner, ending, further⟩ := inductionHypothesis nativePart become
    exact ⟨inner, ending, .item (parseIndex_of_denotes denotes short) within further⟩

/-- In the value that native data become, whatever the scopes further out, a name reaches what the
part becomes to which it leads in the data. -/
theorem lookup_commutes_with_conversion {datum : Datum} (native : datum.IsNative) {value : Value}
    (accepted : datum.toValue = .ok value) (name : Name) {reached : Datum}
    (leads : datum.Leads name.segments reached) :
    ∃ inner, reached.toValue = .ok inner ∧
      ∀ outer : Scopes, Scopes.resolve (value :: outer) name = .ok inner := by
  obtain ⟨inner, become, further⟩ := leads.toValue native accepted
  refine ⟨inner, become, fun outer => ?_⟩
  rw [Scopes.resolve, Scopes.lookup, Value.follow_eq_iff.mpr (.found further)]

/-- A name leads through a mapping, by a padded numeral through a list, and through a mapping with
a key of digits to a number. -/
theorem lookup_commutes_with_conversion_nested :
    let color : Color := { red := 7, green := 8, blue := 9 }
    let part : Datum := .mapping [(.text "0", .integer (-7)), (.text "k", .formattable
      color.toFormattable)]
    let datum : Datum := .mapping [(.text "a", .sequence [.bool true, part, .none])]
    let value : Value := .map [("a", .list [.bool true,
      .map [("0", .string "-7"), ("k", .formattable color.toFormattable)], .nil])]
    let name : Name := { segments := ["a", "01", "0"] }
    datum.IsNative ∧ datum.toValue = .ok value ∧ datum.Leads name.segments (.integer (-7)) ∧
      ∃ inner, (integer (-7)).toValue = .ok inner ∧
        ∀ outer : Scopes, Scopes.resolve (value :: outer) name = .ok inner := by
  intro color part datum value name
  have nativePart : part.IsNative :=
    .mapping ⟨["0", "k"], by decide, rfl⟩
      (List.forall_mem_cons.mpr ⟨.integer _, List.forall_mem_singleton.mpr (.formattable _)⟩)
  have items : ∀ item ∈ [.bool true, part, .none], item.IsNative :=
    List.forall_mem_cons.mpr ⟨.bool _, List.forall_mem_cons.mpr
      ⟨nativePart, List.forall_mem_singleton.mpr .none⟩⟩
  have native : datum.IsNative :=
    .mapping ⟨["a"], by decide, rfl⟩ (List.forall_mem_singleton.mpr (.sequence items))
  have accepted : datum.toValue = .ok value := by with_unfolding_all rfl
  have numeral : Denotes "01" 1 := ⟨1, rfl⟩
  have inPart : part.Leads ["0"] (.integer (-7)) := .entry List.mem_cons_self (.here _)
  have leads : datum.Leads name.segments (.integer (-7)) :=
    .entry List.mem_cons_self (.item numeral (by decide) rfl inPart)
  exact ⟨native, accepted, leads, lookup_commutes_with_conversion native accepted name leads⟩

end Datum

end Stencil
