/-
This file proves which loggers lie in the namespace of the base, and which of them the level that
is set at the base governs.

A name that begins with the name of the base is taken as it is, whatever stands behind. So a name
that goes on with a character other than a dot asks for a logger outside of the namespace, and the
level of the base never governs that one, for what a logger stands below is found from the dots of
its name. Every other name asks for a logger within. Among those a second dot right behind the
first can cut a logger off from the base: the search for what it stands below passes over a
character before each dot that it finds. Without a second dot a logger is governed, whatever
loggers there are.
-/

import Mathlib.Data.List.Infix
import Stencil.Proofs.LogLevels

namespace Stencil.Log

/-! ### The namespace of the base -/

namespace Logger

/-- A logger is the base or has the name of the base and a dot in front of its own. -/
def InNamespace (logger : Logger) : Prop :=
  logger = .base ∨ ∃ part, logger.name.toList = baseName.toList ++ '.' :: part

/-- A logger is the base or has the name of the base and one dot in front of its own, which does
not begin with a dot. -/
def IsAnchored (logger : Logger) : Prop :=
  logger = .base ∨
    ∃ part, logger.name.toList = baseName.toList ++ '.' :: part ∧ part.head? ≠ some '.'

/-- A name has the name of the base in front of a character that is no dot. -/
def Escapes (name : String) : Prop :=
  ∃ first rest, name.toList = baseName.toList ++ first :: rest ∧ first ≠ '.'

theorem toList_child (name : String) :
    (child name).name.toList = baseName.toList ++ '.' :: name.toList := by
  simp [child]

/-- A name that begins with the name of the base is the name of the logger that it asks for. -/
theorem named_of_begins {name : String} {rest : List Char}
    (begins : name.toList = baseName.toList ++ rest) : named (some name) = { name } := by
  have isPrefix : baseName.toList.isPrefixOf name.toList = true :=
    List.isPrefixOf_iff_prefix.mpr ⟨rest, begins.symm⟩
  have nonempty : name ≠ "" := by
    rintro rfl
    exact absurd begins.symm (by simp [baseName])
  by_cases same : name = baseName
  · rw [same, named, if_pos (.inr rfl), base]
  · rw [named, if_neg (by simp [nonempty, same]), if_pos isPrefix]

theorem named_of_not_begins {name : String} (nonempty : name ≠ "")
    (differs : ∀ rest, name.toList ≠ baseName.toList ++ rest) :
    named (some name) = child name := by
  have notPrefix : ¬ baseName.toList.isPrefixOf name.toList = true := fun isPrefix =>
    have ⟨rest, begins⟩ := List.isPrefixOf_iff_prefix.mp isPrefix
    differs rest begins.symm
  have notBase : name ≠ baseName := fun same => differs [] (by rw [same, List.append_nil])
  rw [named, if_neg (by simp [nonempty, notBase]), if_neg notPrefix]

/-- Names ask for the base, for a logger right as they are, or for one below the base. -/
theorem named_cases (asked : Option String) :
    (named asked = base ∧ ∀ name, asked = some name → name = "") ∨
      (∃ name rest, asked = some name ∧ name.toList = baseName.toList ++ rest ∧
        named asked = { name }) ∨
      ∃ name, asked = some name ∧ (∀ rest, name.toList ≠ baseName.toList ++ rest) ∧
        named asked = child name := by
  cases asked with
  | none => exact .inl ⟨rfl, by simp⟩
  | some name =>
    by_cases empty : name = ""
    · exact .inl ⟨by rw [empty]; rfl, by simp [empty]⟩
    · by_cases begins : ∃ rest, name.toList = baseName.toList ++ rest
      · obtain ⟨rest, begins⟩ := begins
        exact .inr (.inl ⟨name, rest, rfl, begins, named_of_begins begins⟩)
      · have differs := not_exists.mp begins
        exact .inr (.inr ⟨name, rfl, differs, named_of_not_begins empty differs⟩)

/-- The name of a logger asks for that logger again. -/
theorem named_name_named (asked : Option String) :
    named (some (named asked).name) = named asked := by
  rcases named_cases asked with ⟨isBase, _⟩ | ⟨name, rest, _, begins, same⟩ | ⟨name, _, _, below⟩
  · rw [isBase]
    rfl
  · rw [same, named_of_begins begins]
  · rw [below]
    exact named_of_begins (toList_child name)

/-- The names that escape are those that ask for a logger outside of the namespace. -/
theorem inNamespace_named_iff (asked : Option String) :
    (named asked).InNamespace ↔ ∀ name, asked = some name → ¬ Escapes name := by
  rcases named_cases asked with
    ⟨isBase, empty⟩ | ⟨name, rest, rfl, begins, same⟩ | ⟨name, rfl, differs, below⟩
  · refine iff_of_true (.inl isBase) ?_
    rintro name given ⟨first, rest, shape, -⟩
    rw [empty name given] at shape
    exact absurd shape.symm (by simp)
  · rw [same]
    constructor
    · rintro within _ ⟨⟩ ⟨first, rest, shape, plain⟩
      rcases within with isBase | ⟨part, dotted⟩
      · rw [show name = baseName from congrArg Logger.name isBase] at shape
        exact absurd shape.symm (by simp)
      · rw [dotted] at shape
        exact plain (List.cons.inj (List.append_cancel_left shape)).1.symm
    · intro stays
      cases rest with
      | nil => exact .inl (congrArg Logger.mk (String.toList_injective (by simpa using begins)))
      | cons first rest =>
        by_cases isDot : first = '.'
        · exact .inr ⟨rest, by rw [begins, isDot]⟩
        · exact absurd ⟨first, rest, begins, isDot⟩ (stays name rfl)
  · refine iff_of_true (.inr ⟨name.toList, ?_⟩) ?_
    · rw [below, toList_child]
    · rintro _ ⟨⟩ ⟨first, rest, shape, -⟩
      exact differs _ shape

end Logger

/-! ### What a logger stands below -/

namespace Hierarchy

open Logger (baseName)

/-- What leads to the base has the name of the base and a dot in it. -/
theorem exists_part_of_leadsToBase (hierarchy : Hierarchy) (reversed : List Char)
    (leads : hierarchy.leadsToBase reversed = true) :
    ∃ part, reversed = part ++ '.' :: baseName.toList.reverse := by
  have behind (skipped : List Char) {rest : List Char}
      (found : ∃ part, rest = part ++ '.' :: baseName.toList.reverse) :
      ∃ part, skipped ++ rest = part ++ '.' :: baseName.toList.reverse := by
    obtain ⟨part, shape⟩ := found
    exact ⟨skipped ++ part, by rw [shape, List.append_assoc]⟩
  fun_induction leadsToBase hierarchy reversed with
  | case1 => cases leads
  | case2 last rest above whenThere whenAbsent =>
    rcases Bool.or_eq_true_iff.mp leads with isBase | further
    · have name := congrArg (List.reverse ∘ String.toList ∘ Logger.name) (beq_iff_eq.mp isBase)
      exact ⟨[], by simpa [above, ofReversed, Logger.base] using name⟩
    · split at further
      · exact behind ['.'] (whenThere further)
      · exact behind ['.', last] (whenAbsent further)
  | case3 first rest _ inductionHypothesis => exact behind [first] (inductionHypothesis leads)

theorem inNamespace_of_isGoverned {hierarchy : Hierarchy} {logger : Logger}
    (governed : hierarchy.isGoverned logger = true) : logger.InNamespace := by
  rcases Bool.or_eq_true_iff.mp governed with isBase | leads
  · exact .inl (beq_iff_eq.mp isBase)
  · obtain ⟨part, shape⟩ := hierarchy.exists_part_of_leadsToBase _ leads
    exact .inr ⟨part.reverse, by simpa using congrArg List.reverse shape⟩

/-- A single dot behind the name of the base is never passed over. -/
theorem leadsToBase_single_dot (hierarchy : Hierarchy) {first : Char} (plain : first ≠ '.') :
    ∀ part : List Char,
      hierarchy.leadsToBase (part ++ first :: '.' :: baseName.toList.reverse) = true
  | [] => by
    rw [List.nil_append, ← List.singleton_append,
      leadsToBase_append hierarchy (by simpa using plain.symm), leadsToBase_dot_base]
  | [last] => by
    have rest := leadsToBase_single_dot hierarchy plain []
    by_cases isDot : last = '.'
    · rw [isDot, List.singleton_append, leadsToBase_dot, leadsToBase_dot_base]
      rw [List.nil_append] at rest
      rw [rest, ite_self, Bool.or_true]
    · rw [leadsToBase_append hierarchy (by simpa using Ne.symm isDot)]
      exact rest
  | last :: second :: part => by
    have behind := leadsToBase_single_dot hierarchy plain (second :: part)
    by_cases isDot : last = '.'
    · have passed := leadsToBase_single_dot hierarchy plain part
      rw [List.cons_append] at behind
      rw [isDot, List.cons_append, List.cons_append, leadsToBase_dot, passed, behind, ite_self,
        Bool.or_true]
    · rw [List.cons_append, ← List.singleton_append,
        leadsToBase_append hierarchy (by simpa using Ne.symm isDot)]
      exact behind

theorem ofReversed_eq_base_iff (reversed : List Char) :
    ofReversed reversed = .base ↔ reversed = baseName.toList.reverse := by
  rw [ofReversed, Logger.base, Logger.mk.injEq, ← String.toList_inj, String.toList_ofList,
    List.reverse_eq_iff]

theorem ofReversed_inj {first second : List Char} :
    ofReversed first = ofReversed second ↔ first = second := by
  rw [ofReversed, ofReversed, Logger.mk.injEq, String.ofList_inj, List.reverse_inj]

/-- The loggers whose names end behind the second of two dots or further on. -/
def blocking (part : List Char) : Hierarchy where
  made := part.tails.map fun rest => ofReversed (rest ++ '.' :: '.' :: baseName.toList.reverse)

theorem has_blocking_iff {part reversed : List Char} :
    (blocking part).has (ofReversed reversed) = true ↔
      reversed = baseName.toList.reverse ∨
        ∃ rest, rest <:+ part ∧ rest ++ '.' :: '.' :: baseName.toList.reverse = reversed := by
  simp only [has, blocking, Bool.or_eq_true_iff, beq_iff_eq, List.contains_iff_mem, List.mem_map,
    List.mem_tails, ofReversed_eq_base_iff, ofReversed_inj]

/-- Where all loggers are there whose names go beyond two dots, none of them is governed: the first
of the dots is passed over, for no logger has the name that ends between them. -/
theorem leadsToBase_blocking (part : List Char) : ∀ {rest : List Char}, rest <:+ part →
    (blocking part).leadsToBase (rest ++ '.' :: '.' :: baseName.toList.reverse) = false
  | [], _ => by
    have above : ofReversed ('.' :: baseName.toList.reverse) ≠ .base :=
      (ofReversed_eq_base_iff _).not.mpr (by simp)
    have absent : ¬ (blocking part).has (ofReversed ('.' :: baseName.toList.reverse)) = true := by
      rw [has_blocking_iff]
      rintro (same | ⟨rest, -, same⟩)
      · exact absurd (congrArg List.length same) (by simp)
      · have lengths := congrArg List.length same
        simp only [List.length_append, List.length_cons] at lengths
        omega
    have plain : (blocking part).leadsToBase baseName.toList.reverse = false := by
      rw [← List.append_nil baseName.toList.reverse,
        leadsToBase_append _ (by decide), leadsToBase]
    rw [List.nil_append, leadsToBase_dot, beq_eq_false_iff_ne.mpr above, if_neg absent, plain]
    rfl
  | last :: rest, isSuffix => by
    have behind := (List.suffix_cons last rest).trans isSuffix
    have inductionHypothesis := leadsToBase_blocking part behind
    by_cases isDot : last = '.'
    · have there : (blocking part).has
          (ofReversed (rest ++ '.' :: '.' :: baseName.toList.reverse)) = true :=
        has_blocking_iff.mpr (.inr ⟨rest, behind, rfl⟩)
      have above : ofReversed (rest ++ '.' :: '.' :: baseName.toList.reverse) ≠ .base := by
        rw [Ne, ofReversed_eq_base_iff]
        intro same
        have lengths := congrArg List.length same
        simp only [List.length_append, List.length_cons] at lengths
        omega
      obtain ⟨second, tail, shape⟩ := List.exists_cons_of_ne_nil
        (List.append_ne_nil_of_right_ne_nil rest
          (List.cons_ne_nil '.' ('.' :: baseName.toList.reverse)))
      rw [shape] at there above inductionHypothesis
      rw [isDot, List.cons_append, shape, leadsToBase_dot, beq_eq_false_iff_ne.mpr above,
        if_pos there, inductionHypothesis]
      rfl
    · rw [List.cons_append, ← List.singleton_append,
        leadsToBase_append _ (by simpa using Ne.symm isDot)]
      exact inductionHypothesis

/-- A logger is governed whatever loggers there are just if its name does not go on with a second
dot behind that of the base. -/
theorem isGoverned_always_iff (logger : Logger) :
    (∀ hierarchy : Hierarchy, hierarchy.isGoverned logger = true) ↔ logger.IsAnchored := by
  constructor
  · intro governed
    refine (inNamespace_of_isGoverned (governed .initial)).imp_right ?_
    rintro ⟨part, shape⟩
    refine ⟨part, shape, fun begins => ?_⟩
    obtain ⟨rest, rfl⟩ := List.head?_eq_some_iff.mp begins
    have reversed : logger.name.toList.reverse =
        rest.reverse ++ '.' :: '.' :: baseName.toList.reverse := by simp [shape]
    have blocked := governed (blocking rest.reverse)
    rw [isGoverned, reversed, leadsToBase_blocking _ (List.suffix_refl _), Bool.or_false,
      beq_iff_eq] at blocked
    rw [blocked] at shape
    exact absurd (congrArg List.length shape) (by simp [Logger.base])
  · rintro (rfl | ⟨part, shape, plain⟩) hierarchy
    · exact hierarchy.isGoverned_base
    · have reversed : logger.name.toList.reverse =
          part.reverse ++ '.' :: baseName.toList.reverse := by simp [shape]
      have leads : hierarchy.leadsToBase logger.name.toList.reverse = true := by
        rw [reversed]
        cases part with
        | nil => exact hierarchy.leadsToBase_dot_base
        | cons first rest =>
          have single := hierarchy.leadsToBase_single_dot
            (fun isDot => plain (congrArg some isDot)) rest.reverse
          rwa [List.reverse_cons, List.append_assoc, List.singleton_append]
      rw [isGoverned, leads, Bool.or_true]

/-- At a logger that is not governed the level of the base has no say. -/
theorem isEnabled_of_not_isGoverned {hierarchy : Hierarchy} {logger : Logger}
    (outside : hierarchy.isGoverned logger = false) (level least : Level) :
    hierarchy.isEnabled logger level least = decide (Level.warning ≤ least) := by
  have threshold : hierarchy.threshold logger level = Level.warning := by
    simp [Hierarchy.threshold, outside, defaultThreshold]
  have positive : Level.warning ≤ least → 0 < least := Int.lt_of_lt_of_le (by decide)
  rw [isEnabled, threshold, ← Bool.decide_and]
  exact decide_eq_decide.mpr (and_iff_right_of_imp positive)

end Hierarchy

/-! ### The loggers that names ask for -/

namespace Logger

/-- The logger that a name asks for has a name that asks for the same logger. It lies in the
namespace of the base just if the name does not go on with another character than a dot behind
that of the base. A level at the base governs it and the loggers of the library, whatever loggers
there are, just if no second dot follows; then just the records pass that are no less urgent than
the level. Outside of the namespace the level of the base has no say. -/
theorem named_in_namespace (asked : Option String) :
    named (some (named asked).name) = named asked ∧
      ((named asked).InNamespace ↔ ∀ name, asked = some name → ¬ Escapes name) ∧
      ((∀ hierarchy : Hierarchy, LogSettings.Governs { hierarchy } (named asked)) ↔
        (named asked).IsAnchored) ∧
      ((named asked).IsAnchored → ∀ (hierarchy : Hierarchy) (level least : Level), 1 ≤ level →
        hierarchy.isEnabled (named asked) level least = decide (level ≤ least)) ∧
      (¬ (named asked).InNamespace → ∀ (hierarchy : Hierarchy) (level least : Level),
        hierarchy.isEnabled (named asked) level least = decide (Level.warning ≤ least)) := by
  have always := Hierarchy.isGoverned_always_iff (named asked)
  refine ⟨named_name_named asked, inNamespace_named_iff asked, ?_, ?_, ?_⟩
  · rw [← always]
    exact forall_congr' fun hierarchy => ⟨LogSettings.Governs.engine, fun governed =>
      ⟨hierarchy.isGoverned_compiling, hierarchy.isGoverned_rendering,
        hierarchy.isGoverned_loading, governed⟩⟩
  · intro anchored hierarchy level least positive
    exact Hierarchy.isEnabled_of_isGoverned (always.mpr anchored hierarchy) positive least
  · intro outside hierarchy
    have ungoverned : hierarchy.isGoverned (named asked) = false :=
      Bool.eq_false_iff.mpr fun governed => outside (Hierarchy.inNamespace_of_isGoverned governed)
    exact Hierarchy.isEnabled_of_not_isGoverned ungoverned

/-- A name that only begins like that of the base escapes, so records for debugging do not pass at
its logger under the level of debugging. A name that begins with a dot asks for a logger of the
namespace, which the level does not govern either while the base is alone. -/
theorem names_escape_level :
    (named (some "niji_templatesx")).name = "niji_templatesx" ∧
      ¬ (named (some "niji_templatesx")).InNamespace ∧
      Hierarchy.initial.isEnabled (named (some "niji_templatesx")) Level.debug Level.debug =
        false ∧
      (named (some ".a")).InNamespace ∧
      Hierarchy.initial.isEnabled (named (some ".a")) Level.debug Level.debug = false := by
  have escapes : Escapes "niji_templatesx" := ⟨'x', [], by decide, by decide⟩
  refine ⟨by decide, fun within => ?_, by decide, .inr ⟨".a".toList, by decide⟩, by decide⟩
  exact (inNamespace_named_iff _).mp within _ rfl escapes

end Logger

end Stencil.Log
