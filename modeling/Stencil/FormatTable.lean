/-
This file holds the table of the formats in which a template inserts values of a type.

A type that is not in the table is inserted in the format of the value itself. A type
keeps the place at which it was first put in; two tables that give every type the same
format are the same, whatever their order.
-/

import Stencil.Entries

namespace Stencil

/-- The formats of types, each type once, in the order in which they were first set. -/
structure FormatTable where
  entries : Entries String := []
  unique : entries.keys.Nodup := by exact .nil

namespace FormatTable

/-- The table without formats. -/
def empty : FormatTable := {}

instance : Inhabited FormatTable := ⟨empty⟩

/-- The format of a type, if it has one. -/
def get? (table : FormatTable) (typeName : String) : Option String := table.entries.find? typeName

/-- The table with a format for a type. -/
def set (table : FormatTable) (typeName format : String) : FormatTable where
  entries := table.entries.put typeName format
  unique := Entries.nodup_keys_put table.unique _ _

/-- The table with the formats of a list of pairs, set one behind the other. -/
def setAll (table : FormatTable) (pairs : List (String × String)) : FormatTable :=
  pairs.foldl (fun table pair => table.set pair.1 pair.2) table

/-- The table that a list of pairs makes. -/
def ofPairs (pairs : List (String × String)) : FormatTable := empty.setAll pairs

/-- Two tables give every type the same format. -/
def same (first second : FormatTable) : Bool :=
  first.entries.length == second.entries.length &&
    first.entries.all fun (typeName, format) => second.get? typeName == some format

/-- The type that was set has its format, and every other type the format it had. -/
theorem get?_set (table : FormatTable) (typeName other format : String) :
    (table.set typeName format).get? other =
      if typeName = other then some format else table.get? other :=
  Entries.find?_put _ _ _ _

/-! ### Setting many formats -/

theorem setAll_cons (table : FormatTable) (typeName format : String)
    (pairs : List (String × String)) :
    table.setAll ((typeName, format) :: pairs) = (table.set typeName format).setAll pairs := rfl

theorem setAll_append (table : FormatTable) (first second : List (String × String)) :
    table.setAll (first ++ second) = (table.setAll first).setAll second := List.foldl_append

theorem entries_setAll (table : FormatTable) (pairs : List (String × String)) :
    (table.setAll pairs).entries =
      pairs.foldl (fun entries pair => entries.put pair.1 pair.2) table.entries := by
  induction pairs generalizing table with
  | nil => rfl
  | cons pair rest inductionHypothesis =>
    rw [setAll_cons, inductionHypothesis, set, List.foldl_cons]

/-- A type has the last one of the formats that are set for it, or else the one that it had. -/
theorem get?_setAll (table : FormatTable) (pairs : List (String × String)) (typeName : String) :
    (table.setAll pairs).get? typeName =
      ((pairs.filter fun pair => pair.1 = typeName).getLast?.map Prod.snd).or
        (table.get? typeName) := by
  rw [get?, entries_setAll, Entries.find?_foldl_put, get?]

/-- Types stand in the order in which they were first set, behind those that were there. -/
theorem keys_setAll (table : FormatTable) (pairs : List (String × String)) :
    (table.setAll pairs).entries.keys =
      (table.entries.keys ++ pairs.map Prod.fst).eraseDups := by
  rw [entries_setAll, Entries.keys_foldl_put pairs table.unique]

/-- A type that is not set keeps its format. -/
theorem get?_setAll_of_not_mem {pairs : List (String × String)} {typeName : String}
    (absent : typeName ∉ pairs.map Prod.fst) (table : FormatTable) :
    (table.setAll pairs).get? typeName = table.get? typeName := by
  have none : (pairs.filter fun pair => pair.1 = typeName) = [] := by
    refine List.filter_eq_nil_iff.mpr fun pair member same => absent ?_
    exact List.mem_map.mpr ⟨pair, member, by simpa using same⟩
  rw [get?_setAll, none]
  rfl

/-- A type that is set has a format that no longer depends on the table. -/
theorem get?_setAll_of_mem {pairs : List (String × String)} {typeName : String}
    (member : typeName ∈ pairs.map Prod.fst) (first second : FormatTable) :
    (first.setAll pairs).get? typeName = (second.setAll pairs).get? typeName := by
  obtain ⟨pair, member, same⟩ := List.mem_map.mp member
  have kept : pair ∈ pairs.filter fun pair => pair.1 = typeName :=
    List.mem_filter.mpr ⟨member, by simpa using same⟩
  rw [get?_setAll, get?_setAll, List.getLast?_eq_some_getLast (List.ne_nil_of_mem kept)]
  rfl

theorem mem_keys_setAll {table : FormatTable} {pairs : List (String × String)}
    {typeName : String} :
    typeName ∈ (table.setAll pairs).entries.keys ↔
      typeName ∈ table.entries.keys ∨ typeName ∈ pairs.map Prod.fst := by
  rw [keys_setAll, List.mem_eraseDups, List.mem_append]

/-- Types that are there already keep their places, in front of those that are not. -/
theorem keys_prefix_setAll (table : FormatTable) (pairs : List (String × String)) :
    table.entries.keys <+: (table.setAll pairs).entries.keys := by
  rw [keys_setAll, List.eraseDups_append, Entries.eraseDups_keys table.unique]
  exact List.prefix_append _ _

theorem keys_setAll_of_forall_mem {table : FormatTable} {pairs : List (String × String)}
    (present : ∀ typeName ∈ pairs.map Prod.fst, typeName ∈ table.entries.keys) :
    (table.setAll pairs).entries.keys = table.entries.keys := by
  have none : (pairs.map Prod.fst).removeAll table.entries.keys = [] := by
    refine List.filter_eq_nil_iff.mpr fun typeName member => ?_
    simpa using present typeName member
  rw [keys_setAll, List.eraseDups_append, Entries.eraseDups_keys table.unique, none,
    List.eraseDups_nil, List.append_nil]

/-- Tables with the same types in the same order are equal where every type has the same
format. -/
theorem ext_of_get? {first second : FormatTable}
    (sameKeys : first.entries.keys = second.entries.keys)
    (sameFormats : ∀ typeName, first.get? typeName = second.get? typeName) : first = second := by
  have same := Entries.ext_of_find? first.unique sameKeys sameFormats
  cases first
  cases second
  cases same
  rfl

/-- Setting the same formats once more changes nothing, not even the places of the types. -/
theorem setAll_setAll (table : FormatTable) (pairs : List (String × String)) :
    (table.setAll pairs).setAll pairs = table.setAll pairs := by
  refine ext_of_get? (keys_setAll_of_forall_mem fun typeName member =>
    mem_keys_setAll.mpr (.inr member)) fun typeName => ?_
  by_cases member : typeName ∈ pairs.map Prod.fst
  · exact get?_setAll_of_mem member _ _
  · exact get?_setAll_of_not_mem member _

end FormatTable

end Stencil
