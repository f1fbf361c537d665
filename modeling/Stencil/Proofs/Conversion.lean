/-
This file proves what data become, and when they are refused.

Data are gone through in reading order: a list item by item, a mapping entry by entry. What is
come to on the way is all that they hold at any depth but keys and the insides of values that have
been built already, and the first thing of a type without values is the one that is refused, also
where a later entry would have taken its place. An integer with more digits than are written is
refused too, and in a key it is refused with the mapping that has the key. Where nothing is
refused, every part becomes a value of its own kind, and a mapping becomes a table in which each
text of a key stands once, in the place of the first entry that has it and with the value of the
last one.
-/

import Stencil.Proofs.DataPaths

namespace Stencil

namespace Datum

/-! ### Data by their parts -/

/-- What holds of plain data, and of lists and mappings where it holds of what stands in them, holds
of all data. -/
theorem byParts {motive : Datum → Prop} (none : motive .none) (bool : ∀ value, motive (.bool value))
    (text : ∀ value, motive (.text value)) (integer : ∀ value, motive (.integer value))
    (real : ∀ value, motive (.real value)) (formattable : ∀ object, motive (.formattable object))
    (built : ∀ value, motive (.built value)) (foreign : ∀ typeName, motive (.foreign typeName))
    (sequence : ∀ items : List Datum, (∀ item ∈ items, motive item) → motive (.sequence items))
    (mapping : ∀ entries : List (Key × Datum), (∀ entry ∈ entries, motive entry.2) →
      motive (.mapping entries)) (datum : Datum) : motive datum :=
  @Datum.rec motive (fun items => ∀ item ∈ items, motive item)
    (fun entries => ∀ entry ∈ entries, motive entry.2) (fun entry => motive entry.2)
    none bool text integer real sequence mapping formattable built foreign
    (fun _ member => absurd member List.not_mem_nil)
    (fun _ _ first others => List.forall_mem_cons.mpr ⟨first, others⟩)
    (fun _ member => absurd member List.not_mem_nil)
    (fun _ _ first others => List.forall_mem_cons.mpr ⟨first, others⟩)
    (fun _ _ inner => inner) datum

/-! ### What is come to in data -/

mutual

/-- Data with all that is come to in them, in reading order. Keys are passed over, and a value that
has been built already is not looked into. -/
def visited : Datum → List Datum
  | .sequence items => .sequence items :: visitedInItems items
  | .mapping entries => .mapping entries :: visitedInEntries entries
  | datum => [datum]

/-- What is come to in the items of a list. -/
def visitedInItems : List Datum → List Datum
  | [] => []
  | first :: rest => visited first ++ visitedInItems rest

/-- What is come to in the entries of a mapping. -/
def visitedInEntries : List (Key × Datum) → List Datum
  | [] => []
  | (_, first) :: rest => visited first ++ visitedInEntries rest

end

/-- Data hold a part: they are it, or one of their items does, or what stands under one of their
keys. -/
inductive Holds : Datum → Datum → Prop where
  | here (datum : Datum) : Holds datum datum
  | item {items : List Datum} {item part : Datum} (member : item ∈ items)
      (inner : Holds item part) : Holds (.sequence items) part
  | entry {entries : List (Key × Datum)} {entry : Key × Datum} {part : Datum}
      (member : entry ∈ entries) (inner : Holds entry.2 part) : Holds (.mapping entries) part

theorem mem_visitedInItems {items : List Datum} {part : Datum} :
    part ∈ visitedInItems items ↔ ∃ item ∈ items, part ∈ item.visited := by
  induction items with
  | nil => simp [visitedInItems]
  | cons first rest inductionHypothesis => simp [visitedInItems, inductionHypothesis]

theorem mem_visitedInEntries {entries : List (Key × Datum)} {part : Datum} :
    part ∈ visitedInEntries entries ↔ ∃ entry ∈ entries, part ∈ entry.2.visited := by
  induction entries with
  | nil => simp [visitedInEntries]
  | cons first rest inductionHypothesis => simp [visitedInEntries, inductionHypothesis]

/-- What is come to in data is what they hold. -/
theorem mem_visited_iff {datum part : Datum} : part ∈ datum.visited ↔ datum.Holds part := by
  constructor
  · intro member
    induction datum using byParts with
    | sequence items inductionHypothesis =>
      rcases List.mem_cons.mp member with rfl | inside
      · exact .here _
      · obtain ⟨item, present, inner⟩ := mem_visitedInItems.mp inside
        exact .item present (inductionHypothesis item present inner)
    | mapping entries inductionHypothesis =>
      rcases List.mem_cons.mp member with rfl | inside
      · exact .here _
      · obtain ⟨entry, present, inner⟩ := mem_visitedInEntries.mp inside
        exact .entry present (inductionHypothesis entry present inner)
    | none | bool | text | integer | real | formattable | built | foreign =>
      obtain rfl := List.mem_singleton.mp member
      exact .here _
  · intro holds
    induction holds with
    | here datum => cases datum <;> exact List.mem_cons_self
    | item present _ inductionHypothesis =>
      exact List.mem_cons_of_mem _ (mem_visitedInItems.mpr ⟨_, present, inductionHypothesis⟩)
    | entry present _ inductionHypothesis =>
      exact List.mem_cons_of_mem _ (mem_visitedInEntries.mpr ⟨_, present, inductionHypothesis⟩)

/-! ### Refusals -/

/-- Data are an integer with more digits than are written, or a mapping that has such an integer in
a key. -/
def isTooLong : Datum → Bool
  | .integer value => Number.isTooLong value
  | .mapping entries => entries.any fun entry => entry.1.isTooLong
  | _ => false

/-- No integer in data has more digits than are written, at any depth, be it in a key. -/
def IsShort (datum : Datum) : Prop := ∀ part, datum.Holds part → part.isTooLong = false

/-- The refusal of data that are refused for themselves. -/
def ownRefusal? : Datum → Option Refusal
  | .foreign typeName => some (.foreign typeName)
  | datum => if datum.isTooLong then some .integerTooLong else Option.none

theorem ownRefusal?_eq_none_iff {datum : Datum} :
    ownRefusal? datum = Option.none ↔
      datum.isTooLong = false ∧ ∀ typeName, datum ≠ .foreign typeName := by
  have short :
      (if datum.isTooLong then some Refusal.integerTooLong else Option.none) = Option.none ↔
        datum.isTooLong = false := by
    cases datum.isTooLong <;> simp
  cases datum with
  | foreign typeName => exact iff_of_false nofun fun absent => absent.2 typeName rfl
  | _ => exact short.trans (and_iff_left nofun).symm

theorem ownRefusal?_eq_foreign_iff {datum : Datum} {typeName : String} :
    ownRefusal? datum = some (.foreign typeName) ↔ datum = .foreign typeName := by
  have other : (if datum.isTooLong then some Refusal.integerTooLong else Option.none) ≠
      some (.foreign typeName) := by
    cases datum.isTooLong <;> nofun
  cases datum with
  | foreign found => simp [ownRefusal?]
  | _ => exact iff_of_false other nofun

/-- Something in data is refused for itself. -/
def Refuses (datum : Datum) (refusal : Refusal) : Prop :=
  ∃ part, datum.Holds part ∧ part.ownRefusal? = some refusal

/-- The failure of a result, if it failed. -/
def failure? {ε α : Type} : Except ε α → Option ε
  | .error failure => some failure
  | .ok _ => Option.none

theorem failure?_map {ε α β : Type} (change : α → β) (result : Except ε α) :
    failure? (result.map change) = failure? result := by
  cases result <;> rfl

theorem failure?_eq_some_iff {ε α : Type} {result : Except ε α} {failure : ε} :
    failure? result = some failure ↔ result = .error failure := by
  cases result <;> simp [failure?]

theorem failure?_eq_none_iff {ε α : Type} {result : Except ε α} :
    failure? result = Option.none ↔ ∃ value, result = .ok value := by
  cases result <;> simp [failure?]

theorem failure?_written (key : Key) :
    failure? key.written = if key.isTooLong then some .integerTooLong else Option.none := by
  rw [Key.written]
  cases key.isTooLong <;> rfl

/-- A list is refused for the first of its items that is refused. -/
theorem failure?_toValues (items : List Datum) :
    failure? (toValues items) = items.findSome? fun item => failure? item.toValue := by
  induction items with
  | nil => rfl
  | cons first rest inductionHypothesis =>
    rw [toValues, List.findSome?_cons]
    cases first.toValue with
    | error refusal => rfl
    | ok value => exact (failure?_map _ _).trans inductionHypothesis

/-- A mapping is refused for the first of its entries of which the key or else what stands under it
is refused. -/
theorem failure?_toPairs (entries : List (Key × Datum)) :
    failure? (toPairs entries) = entries.findSome? fun entry =>
      (failure? entry.1.written).or (failure? entry.2.toValue) := by
  induction entries with
  | nil => rfl
  | cons first rest inductionHypothesis =>
    obtain ⟨key, datum⟩ := first
    rw [toPairs, List.findSome?_cons]
    dsimp only
    cases key.written with
    | error refusal => rfl
    | ok name =>
      cases datum.toValue with
      | error refusal => rfl
      | ok value => exact (failure?_map _ _).trans inductionHypothesis

/-- The keys of a mapping are what it is refused for itself for. -/
theorem ownRefusal?_mapping_eq_some_iff {entries : List (Key × Datum)} {refusal : Refusal} :
    (mapping entries).ownRefusal? = some refusal ↔
      ∃ entry ∈ entries, failure? entry.1.written = some refusal := by
  simp only [failure?_written]
  show (if entries.any (fun entry => entry.1.isTooLong) then _ else _) = _ ↔ _
  constructor
  · intro own
    split at own
    · rename_i long
      obtain ⟨entry, member, inKey⟩ := List.any_eq_true.mp long
      exact ⟨entry, member, (if_pos inKey).trans own⟩
    · cases own
  · rintro ⟨entry, member, own⟩
    split at own
    · rename_i inKey
      exact (if_pos (List.any_eq_true.mpr ⟨entry, member, inKey⟩)).trans own
    · cases own

theorem failure?_toValue_integer (value : Int) :
    failure? (integer value).toValue = (integer value).ownRefusal? := by
  rw [toValue]
  show _ = if Number.isTooLong value then _ else _
  cases Number.isTooLong value <;> rfl

theorem refuses_sequence_iff {items : List Datum} {refusal : Refusal} :
    (sequence items).Refuses refusal ↔ ∃ item ∈ items, item.Refuses refusal := by
  constructor
  · rintro ⟨part, holds, own⟩
    cases holds with
    | here => cases own
    | item member inner => exact ⟨_, member, part, inner, own⟩
  · rintro ⟨item, member, part, inner, own⟩
    exact ⟨part, .item member inner, own⟩

theorem refuses_mapping_iff {entries : List (Key × Datum)} {refusal : Refusal} :
    (mapping entries).Refuses refusal ↔
      ∃ entry ∈ entries, failure? entry.1.written = some refusal ∨ entry.2.Refuses refusal := by
  constructor
  · rintro ⟨part, holds, own⟩
    cases holds with
    | here =>
      obtain ⟨entry, member, inKey⟩ := ownRefusal?_mapping_eq_some_iff.mp own
      exact ⟨entry, member, .inl inKey⟩
    | entry member inner => exact ⟨_, member, .inr ⟨part, inner, own⟩⟩
  · rintro ⟨entry, member, inKey | ⟨part, inner, own⟩⟩
    · exact ⟨_, .here _, ownRefusal?_mapping_eq_some_iff.mpr ⟨entry, member, inKey⟩⟩
    · exact ⟨part, .entry member inner, own⟩

theorem refuses_iff_of_plain {datum : Datum} (alone : ∀ part, datum.Holds part → part = datum)
    {refusal : Refusal} : datum.Refuses refusal ↔ datum.ownRefusal? = some refusal :=
  ⟨fun ⟨part, holds, own⟩ => alone part holds ▸ own, fun own => ⟨datum, .here datum, own⟩⟩

/-- Data have a value where nothing in them is refused for itself. -/
theorem failure?_toValue_eq_none_iff {datum : Datum} :
    failure? datum.toValue = Option.none ↔ ∀ refusal, ¬ datum.Refuses refusal := by
  have plain {datum : Datum} (alone : ∀ part, datum.Holds part → part = datum)
      (same : failure? datum.toValue = datum.ownRefusal?) :
      failure? datum.toValue = Option.none ↔ ∀ refusal, ¬ datum.Refuses refusal := by
    simp only [same, refuses_iff_of_plain alone, Option.eq_none_iff_forall_ne_some]
  induction datum using byParts with
  | sequence items inductionHypothesis =>
    rw [toValue, failure?_map, failure?_toValues, List.findSome?_eq_none_iff]
    simp only [refuses_sequence_iff, not_exists, not_and]
    constructor
    · intro each refusal item member
      exact (inductionHypothesis item member).mp (each item member) refusal
    · intro none item member
      exact (inductionHypothesis item member).mpr fun refusal => none refusal item member
  | mapping entries inductionHypothesis =>
    rw [toValue, failure?_map, failure?_toPairs, List.findSome?_eq_none_iff]
    simp only [refuses_mapping_iff, not_exists, not_and, not_or, Option.or_eq_none_iff]
    constructor
    · intro each refusal entry member
      obtain ⟨inKey, underKey⟩ := each entry member
      exact ⟨Option.eq_none_iff_forall_ne_some.mp inKey refusal,
        (inductionHypothesis entry member).mp underKey refusal⟩
    · intro none entry member
      exact ⟨Option.eq_none_iff_forall_ne_some.mpr fun refusal => (none refusal entry member).1,
        (inductionHypothesis entry member).mpr fun refusal => (none refusal entry member).2⟩
  | integer value =>
    exact plain (fun part holds => by cases holds; rfl) (failure?_toValue_integer value)
  | none | bool | text | real | formattable | built | foreign =>
    exact plain (fun part holds => by cases holds; rfl) rfl

/-- Data are refused for something in them that is refused for itself. -/
theorem refuses_of_toValue {datum : Datum} {refusal : Refusal}
    (refused : datum.toValue = .error refusal) : datum.Refuses refusal := by
  rw [← failure?_eq_some_iff] at refused
  induction datum using byParts with
  | sequence items inductionHypothesis =>
    rw [toValue, failure?_map, failure?_toValues] at refused
    obtain ⟨item, member, inItem⟩ := List.exists_of_findSome?_eq_some refused
    exact refuses_sequence_iff.mpr ⟨item, member, inductionHypothesis item member inItem⟩
  | mapping entries inductionHypothesis =>
    rw [toValue, failure?_map, failure?_toPairs] at refused
    obtain ⟨entry, member, inEntry⟩ := List.exists_of_findSome?_eq_some refused
    refine refuses_mapping_iff.mpr ⟨entry, member, ?_⟩
    rcases Option.or_eq_some_iff.mp inEntry with inKey | ⟨-, underKey⟩
    · exact .inl inKey
    · exact .inr (inductionHypothesis entry member underKey)
  | integer value => exact ⟨_, .here _, failure?_toValue_integer value ▸ refused⟩
  | none | bool | text | real | formattable | built | foreign => exact ⟨_, .here _, refused⟩

/-- Data have a value unless they hold something of a type without values or an integer that is too
long. -/
theorem exists_toValue_iff {datum : Datum} :
    (∃ value, datum.toValue = .ok value) ↔
      datum.IsShort ∧ ∀ typeName, ¬ datum.Holds (.foreign typeName) := by
  rw [← failure?_eq_none_iff, failure?_toValue_eq_none_iff]
  constructor
  · intro accepted
    have own (part : Datum) (holds : datum.Holds part) : part.ownRefusal? = Option.none :=
      Option.eq_none_iff_forall_ne_some.mpr fun refusal own => accepted refusal ⟨part, holds, own⟩
    exact ⟨fun part holds => (ownRefusal?_eq_none_iff.mp (own part holds)).1,
      fun typeName holds => (ownRefusal?_eq_none_iff.mp (own _ holds)).2 typeName rfl⟩
  · rintro ⟨short, absent⟩ refusal ⟨part, holds, own⟩
    have none := ownRefusal?_eq_none_iff.mpr
      ⟨short part holds, fun typeName same => absent typeName (same ▸ holds)⟩
    cases none.symm.trans own

theorem failure?_toValues_visited {items : List Datum}
    (each : ∀ item ∈ items, failure? item.toValue = item.visited.findSome? ownRefusal?) :
    failure? (toValues items) = (visitedInItems items).findSome? ownRefusal? := by
  rw [failure?_toValues]
  induction items with
  | nil => rfl
  | cons first rest inductionHypothesis =>
    obtain ⟨head, others⟩ := List.forall_mem_cons.mp each
    rw [List.findSome?_cons, head, inductionHypothesis others, visitedInItems,
      List.findSome?_append]
    cases first.visited.findSome? ownRefusal? <;> rfl

theorem failure?_toPairs_visited {entries : List (Key × Datum)}
    (keys : ∀ entry ∈ entries, failure? entry.1.written = Option.none)
    (each : ∀ entry ∈ entries, failure? entry.2.toValue = entry.2.visited.findSome? ownRefusal?) :
    failure? (toPairs entries) = (visitedInEntries entries).findSome? ownRefusal? := by
  rw [failure?_toPairs]
  induction entries with
  | nil => rfl
  | cons first rest inductionHypothesis =>
    obtain ⟨written, writtenRest⟩ := List.forall_mem_cons.mp keys
    obtain ⟨head, others⟩ := List.forall_mem_cons.mp each
    rw [List.findSome?_cons, written, head, inductionHypothesis writtenRest others,
      visitedInEntries, List.findSome?_append]
    cases first.2.visited.findSome? ownRefusal? <;> rfl

/-- Data without integers that are too long are refused for the first thing that is refused for
itself. -/
theorem IsShort.failure?_toValue {datum : Datum} (short : datum.IsShort) :
    failure? datum.toValue = datum.visited.findSome? ownRefusal? := by
  induction datum using byParts with
  | sequence items inductionHypothesis =>
    rw [toValue, failure?_map, visited, List.findSome?_cons]
    refine failure?_toValues_visited fun item member => inductionHypothesis item member ?_
    exact fun part holds => short part (.item member holds)
  | mapping entries inductionHypothesis =>
    have own : (mapping entries).ownRefusal? = Option.none := by
      refine ownRefusal?_eq_none_iff.mpr ⟨short _ (.here _), fun typeName same => ?_⟩
      cases same
    rw [toValue, failure?_map, visited, List.findSome?_cons, own]
    refine failure?_toPairs_visited (fun entry member => ?_) fun entry member =>
      inductionHypothesis entry member fun part holds => short part (.entry member holds)
    rw [Option.eq_none_iff_forall_ne_some]
    intro refusal inKey
    have refused := ownRefusal?_mapping_eq_some_iff.mpr ⟨entry, member, inKey⟩
    cases own.symm.trans refused
  | integer value => exact (failure?_toValue_integer value).trans List.findSome?_singleton.symm
  | none | bool | text | real | formattable | built | foreign => rfl

/-! ### What data become -/

/-- The last entry of a mapping that has a text as the text of its key. -/
def lastWith? (entries : List (Key × Datum)) (key : String) : Option (Key × Datum) :=
  (entries.filter fun entry => entry.1.display = key).getLast?

/-- Data become a value: plain data their own, a list the list of what its items become, and a
mapping the map in which each text of a key stands once, in the order in which they first occur,
with what the last entry becomes that has it. -/
inductive Converts : Datum → Value → Prop where
  | none : Converts .none .nil
  | bool (truth : Bool) : Converts (.bool truth) (.bool truth)
  | text (content : String) : Converts (.text content) (.string content)
  | integer (number : Int) : Converts (.integer number) (.string (toString number))
  | real (number : Number.Binary64) : Converts (.real number) (.string number.text)
  | formattable (object : Formattable) : Converts (.formattable object) (.formattable object)
  | built (value : Value) : Converts (.built value) value
  | sequence {items : List Datum} {values : List Value} (lengths : items.length = values.length)
      (each : ∀ pair ∈ items.zip values, Converts pair.1 pair.2) :
      Converts (.sequence items) (.list values)
  | mapping {entries : List (Key × Datum)} {table : Entries Value} (unique : table.keys.Nodup)
      (keys : table.keys = (entries.map fun entry => entry.1.display).eraseDups)
      (each : ∀ key entry value, lastWith? entries key = some entry →
        table.find? key = some value → Converts entry.2 value) :
      Converts (.mapping entries) (.map table)

/-- The value of a key in what a mapping becomes is what the last entry with this key becomes. -/
theorem toValue_of_lastWith? {entries : List (Key × Datum)} {pairs : List (String × Value)}
    (accepted : toPairs entries = .ok pairs) {key : String} {entry : Key × Datum}
    (last : lastWith? entries key = some entry) {value : Value}
    (found : (Entries.ofPairs pairs).find? key = some value) : entry.2.toValue = .ok value := by
  have each := toPairs_eq_ok_iff.mp accepted
  have kept : List.Forall₂ Becomes (entries.filter fun entry => entry.1.display = key)
      (pairs.filter fun pair => pair.1 = key) :=
    List.rel_filter
      (fun entry pair becomes => by simp [(Key.written_eq_ok_iff.mp becomes.1).2]) each
  rw [lastWith?, List.getLast?_eq_getElem?] at last
  rw [Entries.find?_ofPairs, List.getLast?_eq_getElem?, ← kept.length_eq] at found
  obtain ⟨pair, inside, becomes⟩ := exists_getElem?_of_forall₂ kept last
  rw [inside] at found
  cases found
  exact becomes.2

/-- What data are converted to is what they become. -/
theorem converts_of_toValue {datum : Datum} {value : Value} (accepted : datum.toValue = .ok value) :
    datum.Converts value := by
  induction datum using byParts generalizing value with
  | none | bool | text | real | formattable | built =>
    cases accepted
    constructor
  | integer number =>
    rw [toValue] at accepted
    split at accepted
    · cases accepted
    · cases accepted
      exact .integer number
  | foreign => cases accepted
  | sequence items inductionHypothesis =>
    rw [toValue] at accepted
    obtain ⟨values, parts, rfl⟩ := map_eq_ok accepted
    have each := toValues_eq_ok_iff.mp parts
    refine .sequence each.length_eq fun pair member => ?_
    have become := (List.forall₂_iff_zip.mp each).2 member
    exact inductionHypothesis pair.1 (List.of_mem_zip member).1 become
  | mapping entries inductionHypothesis =>
    rw [toValue] at accepted
    obtain ⟨pairs, parts, rfl⟩ := map_eq_ok accepted
    refine .mapping (Entries.nodup_keys_ofPairs pairs) ?_ fun key entry value last found => ?_
    · rw [Entries.keys_ofPairs, ← keys_eq_of_toPairs parts]
      rfl
    · have member : entry ∈ entries := List.mem_of_mem_filter (List.mem_of_getLast? last)
      exact inductionHypothesis entry member (toValue_of_lastWith? parts last found)

theorem exists_lastWith? {entries : List (Key × Datum)} {key : String}
    (present : key ∈ entries.map fun entry => entry.1.display) :
    ∃ entry, lastWith? entries key = some entry := by
  obtain ⟨entry, member, same⟩ := List.mem_map.mp present
  have kept : entry ∈ entries.filter fun entry => entry.1.display = key :=
    List.mem_filter.mpr ⟨member, by simpa using same⟩
  exact ⟨_, List.getLast?_eq_some_getLast (List.ne_nil_of_mem kept)⟩

/-- Data become one value. -/
theorem Converts.eq {datum : Datum} {first second : Value} (converts : datum.Converts first)
    (again : datum.Converts second) : first = second := by
  induction converts generalizing second with
  | none | bool | text | integer | real | formattable | built =>
    cases again
    rfl
  | @sequence items values lengths each inductionHypothesis =>
    cases again with
    | @sequence _ others lengthsAgain eachAgain =>
      refine congrArg Value.list (List.ext_getElem (lengths.symm.trans lengthsAgain) ?_)
      intro index inside insideAgain
      have here : index < items.length := lengths ▸ inside
      have pair : (items[index], values[index]) ∈ items.zip values :=
        List.mem_iff_getElem.mpr ⟨index, by rw [List.length_zip]; omega, List.getElem_zip⟩
      have pairAgain : (items[index], others[index]) ∈ items.zip others :=
        List.mem_iff_getElem.mpr ⟨index, by rw [List.length_zip]; omega, List.getElem_zip⟩
      exact inductionHypothesis _ pair (eachAgain _ pairAgain)
  | @mapping entries table unique keys each inductionHypothesis =>
    cases again with
    | @mapping _ other uniqueAgain keysAgain eachAgain =>
      refine congrArg Value.map (Entries.ext_of_find? unique (keys.trans keysAgain.symm) ?_)
      intro key
      by_cases present : key ∈ entries.map fun entry => entry.1.display
      · obtain ⟨entry, last⟩ := exists_lastWith? present
        obtain ⟨value, found⟩ := Entries.exists_find? (keys ▸ List.mem_eraseDups.mpr present)
        obtain ⟨valueAgain, foundAgain⟩ :=
          Entries.exists_find? (keysAgain ▸ List.mem_eraseDups.mpr present)
        rw [found, foundAgain, inductionHypothesis key entry value last found
          (eachAgain key entry valueAgain last foundAgain)]
      · have missing {table : Entries Value}
            (keys : table.keys = (entries.map fun entry => entry.1.display).eraseDups) :
            table.find? key = Option.none :=
          (Entries.find?_eq_none_iff table key).mpr fun member =>
            present (List.mem_eraseDups.mp (keys ▸ member))
        rw [missing keys, missing keysAgain]

/-- Data have the value that they become, and they have it where they hold nothing without one. -/
theorem toValue_eq_ok_iff {datum : Datum} {value : Value} :
    datum.toValue = .ok value ↔
      datum.Converts value ∧ datum.IsShort ∧ ∀ typeName, ¬ datum.Holds (.foreign typeName) := by
  constructor
  · intro accepted
    exact ⟨converts_of_toValue accepted, exists_toValue_iff.mp ⟨value, accepted⟩⟩
  · rintro ⟨converts, writable⟩
    obtain ⟨other, accepted⟩ := exists_toValue_iff.mpr writable
    rw [accepted, converts.eq (converts_of_toValue accepted)]

/-- Data without integers that are too long are refused for the first thing of a type without values
that is come to in them. -/
theorem IsShort.toValue_eq_error_iff {datum : Datum} (short : datum.IsShort) {refusal : Refusal} :
    datum.toValue = .error refusal ↔
      ∃ typeName before behind, refusal = .foreign typeName ∧
        datum.visited = before ++ .foreign typeName :: behind ∧
        ∀ other, .foreign other ∉ before := by
  have each : ∀ part ∈ datum.visited, part.isTooLong = false :=
    fun part member => short part (mem_visited_iff.mp member)
  rw [← failure?_eq_some_iff, short.failure?_toValue, List.findSome?_eq_some_iff]
  constructor
  · rintro ⟨before, part, behind, parts, own, others⟩
    have written := each part (parts ▸ List.mem_append_right before List.mem_cons_self)
    obtain ⟨typeName, rfl⟩ : ∃ typeName, part = .foreign typeName := by
      by_contra plain
      rw [ownRefusal?_eq_none_iff.mpr ⟨written, not_exists.mp plain⟩] at own
      cases own
    cases own
    refine ⟨typeName, before, behind, rfl, parts, fun other member => ?_⟩
    exact (ownRefusal?_eq_none_iff.mp (others _ member)).2 other rfl
  · rintro ⟨typeName, before, behind, rfl, parts, others⟩
    refine ⟨before, _, behind, parts, rfl, fun part member => ?_⟩
    have written := each part (parts ▸ List.mem_append_left _ member)
    exact ownRefusal?_eq_none_iff.mpr ⟨written, fun other same => others other (same ▸ member)⟩

/-! ### Conversion as a whole -/

/-- Data are refused exactly where they hold something of a type without values, at any depth, be it
under a key that comes again, or an integer that is too long, be it in a key. Without such integers
what is refused is the first thing of such a type in reading order, and the message names its type.
All other data have the one value that they become: a list as many values in the same order, and a
mapping a table with each text of a key once, and with what the last entry becomes that has it.
Converted again, a value stays as it is. -/
theorem conversion_exact (datum : Datum) :
    ((∃ refusal, datum.toValue = .error refusal) ↔
      (∃ typeName, datum.Holds (.foreign typeName)) ∨ ¬ datum.IsShort) ∧
    (datum.IsShort → ∀ refusal, datum.toValue = .error refusal ↔
      ∃ typeName before behind, refusal = .foreign typeName ∧
        datum.visited = before ++ .foreign typeName :: behind ∧
        ∀ other, .foreign other ∉ before) ∧
    (∀ part, part ∈ datum.visited ↔ datum.Holds part) ∧
    (∀ typeName, (Refusal.foreign typeName).message =
      "cannot convert " ++ typeName ++ " to a template value") ∧
    (∀ value, datum.toValue = .ok value ↔
      datum.Converts value ∧ datum.IsShort ∧ ∀ typeName, ¬ datum.Holds (.foreign typeName)) ∧
    ∀ value, datum.toValue = .ok value → (Datum.built value).toValue = .ok value := by
  refine ⟨?_, fun short _ => short.toValue_eq_error_iff, fun _ => mem_visited_iff, fun _ => rfl,
    fun _ => toValue_eq_ok_iff, fun _ _ => rfl⟩
  have refused : (∃ refusal, datum.toValue = .error refusal) ↔
      ¬ ∃ value, datum.toValue = .ok value := by
    cases datum.toValue <;> simp
  rw [refused, exists_toValue_iff, not_and_or, or_comm, not_forall_not]

/-- The number one and the text of it are one key: what stands under the number is refused all the
same, and where nothing is refused it is replaced in its place. -/
theorem conversion_exact_colliding :
    let refused : Datum := .mapping [(.integer 1, .foreign "object"), (.text "1", .none)]
    let accepted : Datum := .sequence [.mapping
      [(.integer 1, .text "number"), (.bool true, .built (.bool false)), (.text "1", .integer 7)]]
    let value : Value := .list [.map [("1", .string "7"), ("True", .bool false)]]
    (∃ typeName, refused.Holds (.foreign typeName)) ∧ refused.IsShort ∧
      refused.toValue = .error (.foreign "object") ∧
      accepted.toValue = .ok value ∧ accepted.Converts value ∧
      (Datum.built value).toValue = .ok value := by
  intro refused accepted value
  have short : refused.IsShort := fun part holds => by
    have member : part ∈ [refused, .foreign "object", .none] := mem_visited_iff.mpr holds
    simp only [List.mem_cons, List.not_mem_nil, or_false] at member
    rcases member with rfl | rfl | rfl <;> with_unfolding_all rfl
  have holds : refused.Holds (.foreign "object") := .entry List.mem_cons_self (.here _)
  obtain ⟨-, refusals, -⟩ := conversion_exact refused
  have known : refused.toValue = .error (.foreign "object") :=
    (refusals short _).mpr ⟨"object", [refused], [.none], rfl, rfl, by simp [refused]⟩
  have built : accepted.toValue = .ok value := by with_unfolding_all rfl
  obtain ⟨-, -, -, -, values, again⟩ := conversion_exact accepted
  exact ⟨⟨_, holds⟩, short, known, built, ((values value).mp built).1, again value built⟩

end Datum

end Stencil
