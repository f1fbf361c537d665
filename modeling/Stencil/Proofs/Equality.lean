/-
This file proves that templates that are equal cannot be told apart.

Two templates are equal when their trees are and when their tables give every type the same
format, in whatever order the types stand in them. A rendering looks formats up and sets them,
and nothing in it depends on their order. So equal templates answer every rendering alike and
are equal again behind it, also where it failed, and the same holds for every history of steps
that both of them take.
-/

import Mathlib.Data.List.Perm.Subperm
import Stencil.Proofs.Noninterference
import Stencil.Proofs.Steps

namespace Stencil

/-! ### Equal tables -/

namespace FormatTable

/-- Two tables give every type the same format. -/
def Agree (first second : FormatTable) : Prop :=
  ∀ typeName, first.get? typeName = second.get? typeName

/-- What a table gives to a type, another table gives to it too. -/
def Within (first second : FormatTable) : Prop :=
  ∀ typeName format, first.get? typeName = some format → second.get? typeName = some format

theorem get?_eq_some_iff {table : FormatTable} {typeName format : String} :
    table.get? typeName = some format ↔ (typeName, format) ∈ table.entries :=
  Entries.find?_eq_some_iff table.unique

theorem get?_eq_none_iff {table : FormatTable} {typeName : String} :
    table.get? typeName = none ↔ typeName ∉ table.entries.keys :=
  Entries.find?_eq_none_iff _ _

variable {first second : FormatTable}

theorem all_entries_iff :
    (first.entries.all fun (typeName, format) => second.get? typeName == some format) = true ↔
      first.Within second := by
  simp only [List.all_eq_true, Prod.forall, beq_iff_eq, Within, get?_eq_some_iff]

theorem Within.subperm (within : first.Within second) :
    first.entries.keys.Subperm second.entries.keys := by
  refine first.unique.subperm fun typeName member => ?_
  by_contra absent
  cases found : first.get? typeName with
  | none => exact get?_eq_none_iff.mp found member
  | some format =>
    have kept := within typeName format found
    rw [get?_eq_none_iff.mpr absent] at kept
    cases kept

theorem Agree.within (agree : first.Agree second) : first.Within second :=
  fun typeName _ found => (agree typeName).symm.trans found

/-- Tables are the same where they give every type the same format, whatever the order. -/
theorem same_iff : first.same second = true ↔ first.Agree second := by
  have lengths (table : FormatTable) : table.entries.keys.length = table.entries.length :=
    List.length_map _
  rw [same, Bool.and_eq_true, beq_iff_eq, all_entries_iff, ← lengths, ← lengths]
  constructor
  · rintro ⟨equal, within⟩ typeName
    -- As many types as in the other table leave that one no further type.
    have types := within.subperm.perm_of_length_le (Nat.le_of_eq equal.symm)
    cases found : first.get? typeName with
    | some format => exact (within typeName format found).symm
    | none =>
      rw [get?_eq_none_iff, types.mem_iff] at found
      exact (get?_eq_none_iff.mpr found).symm
  · intro agree
    have back : second.Agree first := fun typeName => (agree typeName).symm
    exact ⟨Nat.le_antisymm agree.within.subperm.length_le back.within.subperm.length_le,
      agree.within⟩

theorem Agree.set (agree : first.Agree second) (typeName format : String) :
    (first.set typeName format).Agree (second.set typeName format) := by
  intro other
  rw [get?_set, get?_set, agree other]

end FormatTable

/-- Renderings of a template with tables that give every type the same format come to the same
text or the same error, and leave tables of which that is true. -/
theorem render_agree [Memory] (tokens : List Token) (root : Value) {first second : FormatTable}
    (agree : first.Agree second) :
    (render tokens first root).outcome = (render tokens second root).outcome ∧
      (render tokens first root).formats.Agree (render tokens second root).formats := by
  -- A type that does not occur in the value is one more on which the tables agree.
  have alike (typeName : String) := @render_alike _ tokens (typeName :: root.typeNames) root first
    second (List.subset_cons_self _ _) fun other _ => agree other
  exact ⟨(alike "").1, fun typeName => (alike typeName).2 typeName List.mem_cons_self⟩

/-! ### Equal templates -/

namespace Template

variable {first second third : Template}

theorem same_iff :
    first.same second = true ↔
      first.tokens = second.tokens ∧ first.formats.Agree second.formats := by
  rw [same, Bool.and_eq_true, decide_eq_true_iff, FormatTable.same_iff]

theorem same_refl (template : Template) : template.same template = true :=
  same_iff.mpr ⟨rfl, fun _ => rfl⟩

theorem same_equivalence : Equivalence fun first second : Template => first.same second = true where
  refl := same_refl
  symm same :=
    have ⟨tokens, agree⟩ := same_iff.mp same
    same_iff.mpr ⟨tokens.symm, fun typeName => (agree typeName).symm⟩
  trans same next :=
    have ⟨tokens, agree⟩ := same_iff.mp same
    have ⟨tokensNext, agreeNext⟩ := same_iff.mp next
    same_iff.mpr ⟨tokens.trans tokensNext, fun typeName =>
      (agree typeName).trans (agreeNext typeName)⟩

section Steps

variable [Memory]

/-- Equal templates answer a rendering alike and are equal behind it. -/
theorem render_same (same : first.same second = true) (datum : Datum) :
    (first.render datum).outcome = (second.render datum).outcome ∧
      (first.render datum).template.same (second.render datum).template = true := by
  obtain ⟨tokens, agree⟩ := same_iff.mp same
  rw [render, render]
  cases datum.toValue with
  | error refusal => exact ⟨rfl, same⟩
  | ok root =>
    obtain ⟨outcomes, formats⟩ := render_agree second.tokens root agree
    have answers : (first.renderValue root).outcome = (second.renderValue root).outcome := by
      rw [renderValue, renderValue, tokens, outcomes]
    have tables : (first.renderValue root).template.formats.Agree
        (second.renderValue root).template.formats := by
      rw [renderValue, renderValue, tokens]
      exact formats
    exact ⟨answers, same_iff.mpr ⟨tokens, tables⟩⟩

theorem step_same (same : first.same second = true) (step : Step) :
    (first.step step).same (second.step step) = true := by
  cases step with
  | setFormat typeName format =>
    obtain ⟨tokens, agree⟩ := same_iff.mp same
    exact same_iff.mpr ⟨tokens, agree.set typeName format⟩
  | render datum => exact (render_same same datum).2

theorem after_same (same : first.same second = true) (history : List Step) :
    (first.after history).same (second.after history) = true := by
  induction history with
  | nil => exact same
  | cons last earlier inductionHypothesis => exact step_same inductionHypothesis last

/-- Equality of templates is an equivalence: of trees, and of tables as mappings. A copy is equal
to its original when it is taken. Equal templates are equal behind every history of steps, and
then answer every rendering with the same text or the same failure. -/
theorem same_bisimulation :
    (∀ first second : Template, first.same second = true ↔
      first.tokens = second.tokens ∧
        ∀ typeName, first.formats.get? typeName = second.formats.get? typeName) ∧
    (Equivalence fun first second : Template => first.same second = true) ∧
    (∀ files collection number template, Collection.get? collection number = some template →
      ∃ copy, ((collection.perform files (.copy number)).collection).get?
          collection.templates.length = some copy ∧ template.same copy = true) ∧
    ∀ first second : Template, first.same second = true → ∀ history : List Step,
      (first.after history).same (second.after history) = true ∧
        ∀ datum, ((first.after history).render datum).outcome =
          ((second.after history).render datum).outcome := by
  refine ⟨fun _ _ => same_iff, same_equivalence, ?_, fun first second same history => ?_⟩
  · intro files collection number template found
    have made := (Collection.effect_perform files collection (.copy number)).get?_length
    exact ⟨template, made.trans found, same_refl template⟩
  · have behind := after_same same history
    exact ⟨behind, fun datum => (render_same behind datum).1⟩

end Steps

open Memory

/-- The tables differ in the order of their types, and a rendering fails behind an instruction. -/
theorem same_bisimulation_reordered :
    let tokens : List Token := [.setFormat "date" "d", .insert .self none]
    let first : Template := { tokens, formats := .ofPairs [("color", "\x7br\x7d"), ("date", "m")] }
    let second : Template := { tokens, formats := .ofPairs [("date", "m"), ("color", "\x7br\x7d")] }
    let failing : Datum := .sequence []
    first.same second = true ∧
      (first.render failing).outcome = .error (.render (.cannotInsertCollection "." "array")) ∧
      (first.after [.render failing]).same (second.after [.render failing]) = true ∧
      ∀ datum, ((first.after [.render failing]).render datum).outcome =
        ((second.after [.render failing]).render datum).outcome := by
  intro tokens first second failing
  have same : first.same second = true := by decide
  refine ⟨same, by with_unfolding_all rfl, ?_⟩
  exact same_bisimulation.2.2.2 first second same [.render failing]

end Template

end Stencil
