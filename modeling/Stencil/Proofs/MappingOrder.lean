/-
This file proves that the order of the entries of a mapping has no part in a rendering.

Data whose mappings have their entries in another order become values that are alike: the same but
for the order of the entries of their maps, since distinct keys of a mapping stay distinct and each
of them keeps what stands under it. A template asks a map for nothing but what stands under a key,
so names reach alike values in scopes that are alike, and every tree does the same there with every
state.
-/

import Mathlib.Data.List.Perm.Basic
import Stencil.Proofs.Conversion
import Stencil.Proofs.Walk
import Stencil.Template

namespace Stencil

/-! ### Values that are alike -/

namespace Value

/-- Two values are the same but for the order of the entries of maps: lists have as many items and
alike ones, and maps have the same keys with alike values under them. -/
inductive Alike : Value → Value → Prop where
  | refl (value : Value) : Alike value value
  | list {items others : List Value} (lengths : items.length = others.length)
      (each : ∀ pair ∈ items.zip others, Alike pair.1 pair.2) : Alike (.list items) (.list others)
  | map {entries others : Entries Value}
      (keys : ∀ key, entries.find? key = none ↔ others.find? key = none)
      (each : ∀ key value other, entries.find? key = some value →
        others.find? key = some other → Alike value other) : Alike (.map entries) (.map others)

namespace Alike

theorem kind {first second : Value} (alike : first.Alike second) : first.kind = second.kind := by
  cases alike <;> rfl

theorem exists_items {items : List Value} {second : Value}
    (alike : (Value.list items).Alike second) :
    ∃ others, second = .list others ∧ List.Forall₂ Alike items others := by
  cases alike with
  | refl => exact ⟨items, rfl, List.forall₂_same.mpr fun item _ => .refl item⟩
  | @list _ others lengths each =>
    exact ⟨others, rfl, List.forall₂_iff_zip.mpr ⟨lengths, fun member => each _ member⟩⟩

theorem exists_entries {entries : Entries Value} {second : Value}
    (alike : (Value.map entries).Alike second) : ∃ others : Entries Value, second = .map others ∧
      (∀ key, entries.find? key = none → others.find? key = none) ∧
      ∀ key value, entries.find? key = some value →
        ∃ other, others.find? key = some other ∧ value.Alike other := by
  cases alike with
  | refl =>
    exact ⟨entries, rfl, fun _ missing => missing, fun _ value found => ⟨value, found, .refl value⟩⟩
  | @map _ others keys each =>
    refine ⟨others, rfl, fun key => (keys key).mp, fun key value found => ?_⟩
    cases foundOther : others.find? key with
    | none => cases found.symm.trans ((keys key).mpr foundOther)
    | some other => exact ⟨other, rfl, each key value other found foundOther⟩

end Alike

end Value

/-! ### What names reach -/

/-- Two look-ups end in the same error, or in alike values. -/
inductive ReachAlike : (first second : Except LookupError Value) → Prop where
  | error (error : LookupError) : ReachAlike (.error error) (.error error)
  | ok {value other : Value} (alike : value.Alike other) : ReachAlike (.ok value) (.ok other)

/-- In scopes that are alike, a name reaches alike values. -/
theorem Scopes.seek_alike {segments : List String} {scopes others : Scopes}
    (each : List.Forall₂ Value.Alike scopes others) :
    ReachAlike (scopes.seek segments) (others.seek segments) := by
  fun_induction seek segments scopes generalizing others with
  | case1 =>
    cases each
    rw [seek]
    exact .ok (.refl _)
  | case2 scope outer =>
    cases each with
    | cons alike _ =>
      rw [seek]
      exact .ok alike
  | case3 items outer segment rest error bad =>
    cases each with
    | cons alike _ =>
      obtain ⟨otherItems, rfl, -⟩ := alike.exists_items
      rw [seek, bad]
      exact .error error
  | case4 items outer segment rest index read inside inductionHypothesis =>
    cases each with
    | cons alike alikeOuter =>
      obtain ⟨otherItems, rfl, alikeItems⟩ := alike.exists_items
      have insideOther : index < otherItems.length := alikeItems.length_eq ▸ inside
      rw [seek, read]
      simp only [insideOther, dite_true]
      exact inductionHypothesis (.cons (alikeItems.get inside insideOther) alikeOuter)
  | case5 items outer segment rest index read outside =>
    cases each with
    | cons alike _ =>
      obtain ⟨otherItems, rfl, alikeItems⟩ := alike.exists_items
      rw [alikeItems.length_eq] at outside ⊢
      rw [seek, read]
      simp only [outside, dite_false]
      exact .error _
  | case6 entries outer segment rest found present inductionHypothesis =>
    cases each with
    | cons alike alikeOuter =>
      obtain ⟨otherEntries, rfl, -, same⟩ := alike.exists_entries
      obtain ⟨other, presentOther, alikeFound⟩ := same _ _ present
      rw [seek, presentOther]
      exact inductionHypothesis (.cons alikeFound alikeOuter)
  | case7 entries outer segment rest missing inductionHypothesis =>
    cases each with
    | cons alike alikeOuter =>
      obtain ⟨otherEntries, rfl, absent, -⟩ := alike.exists_entries
      rw [seek, absent _ missing]
      exact inductionHypothesis alikeOuter
  | case8 _ _ _ inductionHypothesis | case9 _ _ _ _ inductionHypothesis
  | case10 _ _ _ _ inductionHypothesis | case11 _ _ _ _ inductionHypothesis =>
    cases each with
    | cons alike alikeOuter =>
      cases alike
      rw [seek]
      exact inductionHypothesis alikeOuter

/-! ### What trees do -/

theorem insertValue_alike [Memory] {value other : Value} (alike : value.Alike other) (name : Name)
    (format : Option String) : insertValue name format value = insertValue name format other := by
  cases alike <;> rfl

theorem forEach_alike {body bodyOther : Value → RenderState → Walked}
    (same : ∀ scope scopeOther, scope.Alike scopeOther → body scope = bodyOther scopeOther)
    {items others : List Value} (each : List.Forall₂ Value.Alike items others) :
    forEach body items = forEach bodyOther others := by
  induction each with
  | nil => rfl
  | @cons item other _ _ alike _ inductionHypothesis =>
    funext state
    rw [forEach_cons, forEach_cons, same item other alike, inductionHypothesis]

/-- A section does the same for alike values if its children do. -/
theorem enterValue_alike {body bodyOther : Value → RenderState → Walked}
    (same : ∀ scope scopeOther, scope.Alike scopeOther → body scope = bodyOther scopeOther)
    {value other : Value} (alike : value.Alike other) (name : Name) (inverted : Bool) :
    enterValue name inverted body value = enterValue name inverted bodyOther other := by
  have once := same value other alike
  cases value with
  | list items =>
    obtain ⟨others, rfl, each⟩ := alike.exists_items
    cases inverted with
    | false => exact forEach_alike same each
    | true => exact forEach_alike same (List.forall₂_reverse_iff.mpr each)
  | map entries =>
    obtain ⟨others, rfl, -, -⟩ := alike.exists_entries
    cases inverted with
    | false => exact once
    | true => rfl
  | nil | bool truth | string text | formattable object =>
    cases alike
    funext state
    cases inverted <;> simp only [enterValue, once]

namespace Token

variable [Memory]

mutual

/-- In scopes that are alike, a tree does the same with every state. -/
theorem evaluate_alike : ∀ (token : Token) {scopes others : Scopes},
    List.Forall₂ Value.Alike scopes others → token.evaluate scopes = token.evaluate others
  | text content, _, _, _ => rfl
  | setFormat typeName format, _, _, _ => rfl
  | insert name format, scopes, others, each => by
    have reached : ReachAlike (scopes.seek name.segments) (others.seek name.segments) :=
      Scopes.seek_alike each
    funext state
    rw [evaluate, evaluate]
    generalize scopes.seek name.segments = first, others.seek name.segments = second at reached ⊢
    cases reached with
    | error error => rfl
    | ok alike =>
      simp only [alike.kind, insertValue_alike alike]
  | block name inverted children, scopes, others, each => by
    have reached : ReachAlike (scopes.seek name.segments) (others.seek name.segments) :=
      Scopes.seek_alike each
    have body (scope scopeOther : Value) (alike : scope.Alike scopeOther) :
        evaluateAll children (scope :: scopes) = evaluateAll children (scopeOther :: others) :=
      evaluateAll_alike children (.cons alike each)
    funext state
    rw [evaluate, evaluate]
    generalize scopes.seek name.segments = first, others.seek name.segments = second at reached ⊢
    cases reached with
    | error error => rfl
    | ok alike =>
      simp only [alike.kind, enterValue_alike body alike]

/-- In scopes that are alike, a list of trees does the same with every state. -/
theorem evaluateAll_alike : ∀ (tokens : List Token) {scopes others : Scopes},
    List.Forall₂ Value.Alike scopes others → evaluateAll tokens scopes = evaluateAll tokens others
  | [], _, _, _ => rfl
  | token :: rest, scopes, others, each => by
    funext state
    rw [evaluateAll, evaluateAll, evaluate_alike token each, evaluateAll_alike rest each]

end

end Token

/-- A template is rendered in the same way against values that are alike. -/
theorem render_of_alike [Memory] (tokens : List Token) (formats : FormatTable) {root other : Value}
    (alike : root.Alike other) : render tokens formats root = render tokens formats other := by
  rw [render, render, walk_root, walk_root,
    Token.evaluateAll_alike tokens (.cons alike .nil)]

/-! ### Maps that are alike -/

namespace Entries

/-- Entries have the same key and alike values. -/
def AlikeEntry (entry other : String × Value) : Prop :=
  entry.1 = other.1 ∧ entry.2.Alike other.2

theorem keys_eq_of_alike {entries others : Entries Value}
    (each : List.Forall₂ AlikeEntry entries others) : entries.keys = others.keys :=
  map_eq_map_iff.mpr (each.imp fun _ _ both => both.1)

theorem alike_of_find? {entries others : Entries Value}
    (each : List.Forall₂ AlikeEntry entries others) {key : String} {value other : Value}
    (found : entries.find? key = some value) (foundOther : others.find? key = some other) :
    value.Alike other := by
  induction each with
  | nil => cases found
  | @cons entry otherEntry _ _ alike _ inductionHypothesis =>
    rw [find?] at found foundOther
    rw [← alike.1] at foundOther
    split at found
    · rename_i here
      rw [if_pos here] at foundOther
      cases found
      cases foundOther
      exact alike.2
    · rename_i elsewhere
      rw [if_neg elsewhere] at foundOther
      exact inductionHypothesis found foundOther

end Entries

/-- Maps are alike whose entries are, in any order, if the keys are distinct. -/
theorem Value.Alike.of_perm {entries others reordered : Entries Value}
    (unique : entries.keys.Nodup) (each : List.Forall₂ Entries.AlikeEntry entries others)
    (order : reordered.Perm others) : (Value.map entries).Alike (.map reordered) := by
  have keys := Entries.keys_eq_of_alike each
  have uniqueReordered : reordered.keys.Nodup :=
    (Entries.nodup_keys_iff_of_perm order).mpr (keys ▸ unique)
  have same (key : String) : reordered.find? key = others.find? key :=
    Entries.find?_eq_of_perm uniqueReordered order key
  refine .map (fun key => ?_) fun key value other found foundOther => ?_
  · rw [same, Entries.find?_eq_none_iff, Entries.find?_eq_none_iff, keys]
  · exact Entries.alike_of_find? each found (same key ▸ foundOther)

/-! ### Data in another order -/

namespace Datum

/-- Data are the same but for the order of the entries of mappings, at any depth; values that have
been built already are alike. -/
inductive Reordered : Datum → Datum → Prop where
  | refl (datum : Datum) : Reordered datum datum
  | built {value other : Value} (alike : value.Alike other) :
      Reordered (.built value) (.built other)
  | sequence {items others : List Datum} (lengths : items.length = others.length)
      (each : ∀ pair ∈ items.zip others, Reordered pair.1 pair.2) :
      Reordered (.sequence items) (.sequence others)
  | mapping {entries others reordered : List (Key × Datum)}
      (keys : entries.map Prod.fst = others.map Prod.fst)
      (each : ∀ pair ∈ entries.zip others, Reordered pair.1.2 pair.2.2)
      (order : reordered.Perm others) : Reordered (.mapping entries) (.mapping reordered)

/-- In every mapping that data hold, at any depth, the texts of the keys are distinct. -/
def KeysDistinct (datum : Datum) : Prop :=
  ∀ entries, datum.Holds (.mapping entries) → (entries.map fun entry => entry.1.display).Nodup

/-- Data in another order are refused for the same. -/
theorem Reordered.refuses_iff {first second : Datum} (reordered : first.Reordered second)
    {refusal : Refusal} : first.Refuses refusal ↔ second.Refuses refusal := by
  induction reordered with
  | refl => rfl
  | built =>
    rw [refuses_iff_of_plain fun part holds => by cases holds; rfl,
      refuses_iff_of_plain fun part holds => by cases holds; rfl]
    rfl
  | sequence lengths _ inductionHypothesis =>
    rw [refuses_sequence_iff, refuses_sequence_iff]
    exact exists_mem_iff_of_forall₂ (List.forall₂_iff_zip.mpr
      ⟨lengths, fun member => inductionHypothesis _ member⟩)
  | @mapping entries others _ keys _ order inductionHypothesis =>
    have sameKeys : List.Forall₂ (fun entry other => entry.1 = other.1) entries others :=
      map_eq_map_iff.mp keys
    rw [refuses_mapping_iff, refuses_mapping_iff]
    simp only [order.mem_iff]
    refine exists_mem_iff_of_forall₂ (List.forall₂_iff_zip.mpr
      ⟨sameKeys.length_eq, fun member => ?_⟩)
    rw [List.forall₂_zip sameKeys member]
    exact or_congr_right (inductionHypothesis _ member)

theorem keysDistinct_sequence_iff {items : List Datum} :
    (sequence items).KeysDistinct ↔ ∀ item ∈ items, item.KeysDistinct := by
  constructor
  · exact fun distinct item member entries holds => distinct entries (.item member holds)
  · intro each entries holds
    cases holds with
    | item member holds => exact each _ member entries holds

theorem keysDistinct_mapping_iff {entries : List (Key × Datum)} :
    (mapping entries).KeysDistinct ↔
      (entries.map fun entry => entry.1.display).Nodup ∧
        ∀ entry ∈ entries, entry.2.KeysDistinct := by
  constructor
  · intro distinct
    exact ⟨distinct entries (.here _),
      fun entry member inner holds => distinct inner (.entry member holds)⟩
  · rintro ⟨unique, each⟩ inner holds
    cases holds with
    | here => exact unique
    | entry member holds => exact each _ member inner holds

/-- Where the first data have a value, the second ones have one that is alike. -/
def BecomesAlike (first second : Datum) : Prop :=
  ∀ value, first.toValue = .ok value → ∃ other, second.toValue = .ok other ∧ value.Alike other

namespace BecomesAlike

theorem sequence {items others : List Datum} (each : List.Forall₂ BecomesAlike items others) :
    BecomesAlike (.sequence items) (.sequence others) := by
  intro value accepted
  rw [toValue] at accepted
  obtain ⟨values, parts, rfl⟩ := map_eq_ok accepted
  obtain ⟨results, become, alike⟩ := exists_forall₂ each (toValues_eq_ok_iff.mp parts)
    fun _ _ value step accepted => step value accepted
  refine ⟨.list results, ?_, .list alike.length_eq fun _ member => List.forall₂_zip alike member⟩
  rw [toValue, toValues_eq_ok_iff.mpr become]
  rfl

theorem mapping {entries others reordered : List (Key × Datum)}
    (unique : (entries.map fun entry => entry.1.display).Nodup)
    (each : List.Forall₂ (fun entry other => entry.1 = other.1 ∧ BecomesAlike entry.2 other.2)
      entries others)
    (order : reordered.Perm others) : BecomesAlike (.mapping entries) (.mapping reordered) := by
  intro value accepted
  rw [toValue] at accepted
  obtain ⟨pairs, parts, rfl⟩ := map_eq_ok accepted
  have uniquePairs : (Entries.keys pairs).Nodup := keys_eq_of_toPairs parts ▸ unique
  -- The entries become alike pairs one by one; in the new order they become these pairs reordered.
  obtain ⟨otherPairs, become, alike⟩ :
      ∃ otherPairs, List.Forall₂ Becomes others otherPairs ∧
        List.Forall₂ Entries.AlikeEntry pairs otherPairs := by
    refine exists_forall₂ each (toPairs_eq_ok_iff.mp parts) fun entry other pair both become => ?_
    obtain ⟨result, becomesResult, alikeResult⟩ := both.2 pair.2 become.2
    exact ⟨(pair.1, result), ⟨both.1 ▸ become.1, becomesResult⟩, rfl, alikeResult⟩
  obtain ⟨newPairs, becomeNew, newOrder⟩ := List.perm_comp_forall₂ order become
  have uniqueNew : (Entries.keys newPairs).Nodup :=
    (Entries.nodup_keys_iff_of_perm newOrder).mpr (Entries.keys_eq_of_alike alike ▸ uniquePairs)
  refine ⟨.map newPairs, ?_, ?_⟩
  · rw [toValue, toPairs_eq_ok_iff.mpr becomeNew]
    exact congrArg (fun table => Except.ok (Value.map table)) (Entries.ofPairs_of_nodup uniqueNew)
  · rw [Entries.ofPairs_of_nodup uniquePairs]
    exact .of_perm uniquePairs alike newOrder

end BecomesAlike

/-- Data in another order have values that are alike. -/
theorem Reordered.becomesAlike {first second : Datum} (reordered : first.Reordered second)
    (distinct : first.KeysDistinct) : BecomesAlike first second := by
  induction reordered with
  | refl => exact fun value accepted => ⟨value, accepted, .refl value⟩
  | built alike =>
    intro value accepted
    cases accepted
    exact ⟨_, rfl, alike⟩
  | sequence lengths _ inductionHypothesis =>
    refine .sequence (List.forall₂_iff_zip.mpr ⟨lengths, fun member => ?_⟩)
    exact inductionHypothesis _ member
      (keysDistinct_sequence_iff.mp distinct _ (List.of_mem_zip member).1)
  | @mapping entries others _ keys _ order inductionHypothesis =>
    have sameKeys : List.Forall₂ (fun entry other => entry.1 = other.1) entries others :=
      map_eq_map_iff.mp keys
    obtain ⟨unique, each⟩ := keysDistinct_mapping_iff.mp distinct
    refine .mapping unique ?_ order
    refine List.forall₂_iff_zip.mpr ⟨sameKeys.length_eq, fun member => ?_⟩
    exact ⟨List.forall₂_zip sameKeys member,
      inductionHypothesis _ member (each _ (List.of_mem_zip member).1)⟩

end Datum

/-! ### Whole templates -/

namespace Template

/-- The order of the entries of mappings has no part in a rendering: a template is rendered against
the data in another order to the same text or the same error, with the same events, and has the
same table of formats behind it. -/
theorem render_order_invariant [Memory] (template : Template) {first second : Datum}
    (reordered : first.Reordered second) (distinct : first.KeysDistinct)
    (accepted : ∀ typeName, ¬ first.Holds (.foreign typeName)) :
    template.render first = template.render second := by
  cases become : first.toValue with
  | ok value =>
    obtain ⟨other, becomeOther, alike⟩ := reordered.becomesAlike distinct value become
    simp only [render, become, becomeOther, renderValue,
      render_of_alike template.tokens template.formats alike]
  | error refusal =>
    -- What is refused is an integer that is too long, in the one order as in the other.
    have onlyLong {failure : Datum.Refusal} (refuses : first.Refuses failure) :
        failure = .integerTooLong := by
      obtain ⟨part, holds, own⟩ := refuses
      cases failure with
      | foreign typeName =>
        exact absurd (Datum.ownRefusal?_eq_foreign_iff.mp own ▸ holds) (accepted typeName)
      | integerTooLong => rfl
    have refuses := Datum.refuses_of_toValue become
    cases becomeOther : second.toValue with
    | ok other =>
      have none := Datum.failure?_toValue_eq_none_iff.mp
        (Datum.failure?_eq_none_iff.mpr ⟨other, becomeOther⟩)
      exact absurd (reordered.refuses_iff.mp refuses) (none refusal)
    | error other =>
      have same : refusal = other := (onlyLong refuses).trans
        (onlyLong (reordered.refuses_iff.mpr (Datum.refuses_of_toValue becomeOther))).symm
      rw [render, render, become, becomeOther, same]

open Memory

/-- A mapping in a list and the mapping around it both have their entries the other way round. -/
theorem render_order_invariant_nested :
    let template : Template := {
      tokens := [.block { segments := ["rows"] } false
        [.insert { segments := ["name"] } none, .insert { segments := ["mark"] } none]] }
    let row : Datum := .mapping [(.text "name", .text "a"), (.integer 1, .bool true)]
    let rowAgain : Datum := .mapping [(.integer 1, .bool true), (.text "name", .text "a")]
    let first : Datum :=
      .mapping [(.text "rows", .sequence [row, .none]), (.text "mark", .text ";")]
    let second : Datum :=
      .mapping [(.text "mark", .text ";"), (.text "rows", .sequence [rowAgain, .none])]
    first.Reordered second ∧ first.KeysDistinct ∧
      (∀ typeName, ¬ first.Holds (.foreign typeName)) ∧
      template.render first = template.render second := by
  intro template row rowAgain first second
  have rows : row.Reordered rowAgain :=
    @Datum.Reordered.mapping _ [(.text "name", .text "a"), (.integer 1, .bool true)] _ rfl
      (List.forall_mem_cons.mpr ⟨.refl _, List.forall_mem_singleton.mpr (.refl _)⟩) (.swap _ _ _)
  have list : (Datum.sequence [row, .none]).Reordered (.sequence [rowAgain, .none]) :=
    .sequence rfl (List.forall_mem_cons.mpr ⟨rows, List.forall_mem_singleton.mpr (.refl _)⟩)
  have reordered : first.Reordered second :=
    @Datum.Reordered.mapping _
      [(.text "rows", .sequence [rowAgain, .none]), (.text "mark", .text ";")] _ rfl
      (List.forall_mem_cons.mpr ⟨list, List.forall_mem_singleton.mpr (.refl _)⟩) (.swap _ _ _)
  have text (content : String) : (Datum.text content).KeysDistinct := fun _ holds => nomatch holds
  have bool (truth : Bool) : (Datum.bool truth).KeysDistinct := fun _ holds => nomatch holds
  have none : Datum.none.KeysDistinct := fun _ holds => nomatch holds
  have distinctRow : row.KeysDistinct := Datum.keysDistinct_mapping_iff.mpr
    ⟨by with_unfolding_all decide,
      List.forall_mem_cons.mpr ⟨text "a", List.forall_mem_singleton.mpr (bool true)⟩⟩
  have distinctList : (Datum.sequence [row, .none]).KeysDistinct :=
    Datum.keysDistinct_sequence_iff.mpr
      (List.forall_mem_cons.mpr ⟨distinctRow, List.forall_mem_singleton.mpr none⟩)
  have distinct : first.KeysDistinct := Datum.keysDistinct_mapping_iff.mpr
    ⟨by decide, List.forall_mem_cons.mpr ⟨distinctList, List.forall_mem_singleton.mpr (text ";")⟩⟩
  have accepted : ∀ typeName, ¬ first.Holds (.foreign typeName) :=
    (Datum.exists_toValue_iff.mp ⟨_, by with_unfolding_all rfl⟩).2
  exact ⟨reordered, distinct, accepted,
    render_order_invariant template reordered distinct accepted⟩

end Template

end Stencil
