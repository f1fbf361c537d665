/-
This file holds tables with string keys that keep the order in which keys were first put
in.

Putting a key that a table has changes its value and leaves it in its place; putting a new
key adds it at the end. Tables are built with `put` only, so every key stands in them once.
-/

namespace Stencil

/-- A table with string keys, in the order in which the keys were first put in. -/
abbrev Entries (α : Type) := List (String × α)

namespace Entries

variable {α : Type}

/-- The value of a key. -/
def find? (entries : Entries α) (key : String) : Option α :=
  match entries with
  | [] => none
  | (first, value) :: rest => if first = key then some value else find? rest key

/-- The table with a value for a key; a key that is there keeps its place. -/
def put (entries : Entries α) (key : String) (value : α) : Entries α :=
  match entries with
  | [] => [(key, value)]
  | (first, old) :: rest =>
    if first = key then (first, value) :: rest else (first, old) :: put rest key value

/-- The table that a list of pairs makes, one pair put in behind the other. -/
def ofPairs (pairs : List (String × α)) : Entries α :=
  pairs.foldl (fun entries pair => entries.put pair.1 pair.2) []

/-- The keys in their order. -/
def keys (entries : Entries α) : List String := entries.map Prod.fst

/-- The entries in the order of their keys. -/
def sorted (entries : Entries α) : Entries α :=
  entries.mergeSort fun first second => decide (first.1 ≤ second.1)

/-- The key that was put in has its value, and every other key the value it had. -/
theorem find?_put (entries : Entries α) (key other : String) (value : α) :
    (entries.put key value).find? other =
      if key = other then some value else entries.find? other := by
  induction entries with
  | nil => simp [put, find?]
  | cons first rest inductionHypothesis =>
    obtain ⟨name, old⟩ := first
    by_cases same : name = key
    · subst same
      simp only [put, if_pos, find?]
      split <;> rfl
    · simp only [put, if_neg same, find?, inductionHypothesis]
      split
      · rename_i found
        subst found
        rw [if_neg (Ne.symm same)]
      · rfl

theorem find?_eq_none_iff (entries : Entries α) (key : String) :
    entries.find? key = none ↔ key ∉ entries.keys := by
  induction entries with
  | nil => simp [find?, keys]
  | cons first rest inductionHypothesis =>
    simp only [find?, keys, List.map_cons, List.mem_cons, not_or] at inductionHypothesis ⊢
    split
    · rename_i same
      simp [same]
    · rename_i differ
      exact ⟨fun none => ⟨Ne.symm differ, inductionHypothesis.mp none⟩,
        fun absent => inductionHypothesis.mpr absent.2⟩

theorem exists_find? {entries : Entries α} {key : String} (present : key ∈ entries.keys) :
    ∃ value, entries.find? key = some value := by
  cases found : entries.find? key with
  | none => exact absurd present ((find?_eq_none_iff entries key).mp found)
  | some value => exact ⟨value, rfl⟩

/-- A key has the value that stands with it. -/
theorem find?_eq_some_iff {entries : Entries α} (unique : entries.keys.Nodup) {key : String}
    {value : α} : entries.find? key = some value ↔ (key, value) ∈ entries := by
  induction entries with
  | nil => simp [find?]
  | cons first rest inductionHypothesis =>
    obtain ⟨name, old⟩ := first
    obtain ⟨absent, uniqueRest⟩ := List.nodup_cons.mp unique
    rw [find?, List.mem_cons]
    by_cases same : name = key
    · subst same
      have elsewhere : (name, value) ∉ rest := fun member =>
        absent (List.mem_map.mpr ⟨_, member, rfl⟩)
      simp [elsewhere, eq_comm]
    · rw [if_neg same, inductionHypothesis uniqueRest]
      simp [Ne.symm same]

theorem nodup_keys_iff_of_perm {first second : Entries α} (order : first.Perm second) :
    first.keys.Nodup ↔ second.keys.Nodup := (order.map Prod.fst).nodup_iff

/-- The order of the entries has no part in what a key has. -/
theorem find?_eq_of_perm {first second : Entries α} (unique : first.keys.Nodup)
    (order : first.Perm second) (key : String) : first.find? key = second.find? key := by
  ext value
  rw [find?_eq_some_iff unique, find?_eq_some_iff ((nodup_keys_iff_of_perm order).mp unique),
    order.mem_iff]

/-- A key that is there leaves the keys as they are; a new one comes behind them. -/
theorem keys_put (entries : Entries α) (key : String) (value : α) :
    (entries.put key value).keys =
      if key ∈ entries.keys then entries.keys else entries.keys ++ [key] := by
  induction entries with
  | nil => simp [put, keys]
  | cons first rest inductionHypothesis =>
    obtain ⟨name, old⟩ := first
    by_cases same : name = key
    · subst same
      simp [put, keys]
    · simp only [keys] at inductionHypothesis
      simp only [put, if_neg same, keys, List.map_cons, List.mem_cons, inductionHypothesis,
        Ne.symm same, false_or]
      split <;> simp_all

theorem nodup_keys_put {entries : Entries α} (unique : entries.keys.Nodup) (key : String)
    (value : α) : (entries.put key value).keys.Nodup := by
  rw [keys_put]
  split
  · exact unique
  · rename_i absent
    rw [List.nodup_append]
    refine ⟨unique, by simp, fun name member other isKey same => ?_⟩
    rw [List.mem_singleton] at isKey
    exact absent (isKey ▸ same ▸ member)

theorem nodup_keys_ofPairs (pairs : List (String × α)) : (ofPairs pairs).keys.Nodup := by
  suffices general : ∀ entries : Entries α, entries.keys.Nodup →
      (pairs.foldl (fun entries pair => entries.put pair.1 pair.2) entries).keys.Nodup from
    general [] .nil
  induction pairs with
  | nil => exact fun _ unique => unique
  | cons pair rest inductionHypothesis =>
    exact fun entries unique => inductionHypothesis _ (nodup_keys_put unique _ _)

theorem put_of_not_mem {entries : Entries α} {key : String} (absent : key ∉ entries.keys)
    (value : α) : entries.put key value = entries ++ [(key, value)] := by
  induction entries with
  | nil => rfl
  | cons entry rest inductionHypothesis =>
    obtain ⟨other, inRest⟩ := not_or.mp fun either => absent (List.mem_cons.mpr either)
    rw [put, if_neg (Ne.symm other), inductionHypothesis inRest]
    rfl

/-- Pairs with distinct keys are the table that they make. -/
theorem ofPairs_of_nodup {pairs : List (String × α)} (unique : (keys pairs).Nodup) :
    ofPairs pairs = pairs := by
  suffices general : ∀ entries : Entries α, (keys (entries ++ pairs)).Nodup →
      pairs.foldl (fun entries pair => entries.put pair.1 pair.2) entries = entries ++ pairs from
    general [] unique
  clear unique
  induction pairs with
  | nil => exact fun entries _ => (List.append_nil entries).symm
  | cons pair rest inductionHypothesis =>
    intro entries unique
    have absent : pair.1 ∉ entries.keys := by
      rw [keys, List.map_append, List.map_cons] at unique
      exact fun member =>
        (List.nodup_append.mp unique).2.2 _ member _ List.mem_cons_self rfl
    rw [List.foldl_cons, put_of_not_mem absent, inductionHypothesis _ (by simpa using unique)]
    simp

/-- Every key stands in a table once. -/
theorem eraseDups_keys {entries : Entries α} (unique : entries.keys.Nodup) :
    entries.keys.eraseDups = entries.keys := by
  induction entries with
  | nil => rfl
  | cons entry rest inductionHypothesis =>
    obtain ⟨absent, uniqueRest⟩ := List.nodup_cons.mp unique
    have others : (keys rest).filter (fun key => !key == entry.1) = keys rest := by
      refine List.filter_eq_self.mpr fun key member => ?_
      have differs : key ≠ entry.1 := fun same => absent (same ▸ member)
      simpa using differs
    show (entry.1 :: keys rest).eraseDups = _
    rw [List.eraseDups_cons, others, inductionHypothesis uniqueRest]
    rfl

/-! ### Putting many pairs in -/

/-- A key has the last one of the values that are put in for it, or else the one that it had. -/
theorem find?_foldl_put (pairs : List (String × α)) (entries : Entries α) (key : String) :
    (pairs.foldl (fun entries pair => entries.put pair.1 pair.2) entries).find? key =
      ((pairs.filter fun pair => pair.1 = key).getLast?.map Prod.snd).or (entries.find? key) := by
  induction pairs generalizing entries with
  | nil => rfl
  | cons pair rest inductionHypothesis =>
    rw [List.foldl_cons, inductionHypothesis, find?_put]
    by_cases same : pair.1 = key
    · rw [if_pos same, List.filter_cons_of_pos (by simpa using same), List.getLast?_cons]
      cases (rest.filter fun pair => pair.1 = key).getLast? <;> rfl
    · rw [if_neg same, List.filter_cons_of_neg (by simpa using same)]

/-- Keys stand in the order in which they were first put in, behind those that were there. -/
theorem keys_foldl_put (pairs : List (String × α)) {entries : Entries α}
    (unique : entries.keys.Nodup) :
    (pairs.foldl (fun entries pair => entries.put pair.1 pair.2) entries).keys =
      (entries.keys ++ pairs.map Prod.fst).eraseDups := by
  induction pairs generalizing entries with
  | nil => rw [List.foldl_nil, List.map_nil, List.append_nil, eraseDups_keys unique]
  | cons pair rest inductionHypothesis =>
    rw [List.foldl_cons, inductionHypothesis (nodup_keys_put unique _ _), keys_put, List.map_cons]
    split
    · rename_i present
      have again : (pair.1 :: rest.map Prod.fst).removeAll entries.keys =
          (rest.map Prod.fst).removeAll entries.keys := by
        simp [List.removeAll, present]
      rw [List.eraseDups_append, List.eraseDups_append, again]
    · rw [List.append_assoc, List.singleton_append]

/-- In the table that pairs make, a key has the last one of its values. -/
theorem find?_ofPairs (pairs : List (String × α)) (key : String) :
    (ofPairs pairs).find? key =
      (pairs.filter fun pair => pair.1 = key).getLast?.map Prod.snd :=
  (find?_foldl_put pairs [] key).trans Option.or_none

/-- The table that pairs make has their keys, in the order in which they first occur. -/
theorem keys_ofPairs (pairs : List (String × α)) :
    (ofPairs pairs).keys = (pairs.map Prod.fst).eraseDups := keys_foldl_put pairs .nil

/-- Tables with the same keys in the same order are equal where every key has the same value. -/
theorem ext_of_find? {first second : Entries α} (unique : first.keys.Nodup)
    (sameKeys : first.keys = second.keys)
    (sameValues : ∀ key, first.find? key = second.find? key) : first = second := by
  induction first generalizing second with
  | nil => exact (List.map_eq_nil_iff.mp sameKeys.symm).symm
  | cons entry rest inductionHypothesis =>
    cases second with
    | nil => cases sameKeys
    | cons other others =>
      obtain ⟨name, value⟩ := entry
      obtain ⟨name', value'⟩ := other
      obtain ⟨rfl, sameRest⟩ : name = name' ∧ keys rest = keys others := List.cons.inj sameKeys
      obtain ⟨absent, uniqueRest⟩ := List.nodup_cons.mp unique
      have sameValue : value = value' := by simpa [find?] using sameValues name
      have sameEntries : rest = others := by
        refine inductionHypothesis uniqueRest sameRest fun key => ?_
        by_cases same : name = key
        · subst same
          rw [(find?_eq_none_iff rest name).mpr absent,
            (find?_eq_none_iff others name).mpr (sameRest ▸ absent)]
        · simpa [find?, same] using sameValues key
      rw [sameValue, sameEntries]

end Entries

end Stencil
