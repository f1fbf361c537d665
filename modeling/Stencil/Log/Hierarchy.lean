/-
This file holds the hierarchy of loggers: which loggers there are, and which of them the
level that is set at the base governs.

A logger stands below the nearest logger that there is among those that its name leads to.
A name leads to what is before one of its dots. The dots are found from the end of the name,
and the character before a found dot is passed over: of two dots in a row only the last one
separates. So a logger whose name has two dots behind the name of the base does not stand
below the base, unless one has been made whose name ends between the two.

The base governs itself and every logger from which a chain of loggers, each below the next,
ends at the base. A base without a level lets warnings and all above them pass, and so does a
logger that is not governed. A record of level zero or below never passes.
-/

import Stencil.Log.Level

namespace Stencil.Log

/-- The loggers that have been made beside the base, which is always there. -/
structure Hierarchy where
  made : List Logger
  deriving DecidableEq, Repr

namespace Hierarchy

/-! ### Making loggers -/

/-- The hierarchy of the base alone. -/
def initial : Hierarchy := { made := [] }

instance : Inhabited Hierarchy := ⟨initial⟩

/-- A logger is there. -/
def has (hierarchy : Hierarchy) (logger : Logger) : Bool :=
  logger == .base || hierarchy.made.contains logger

/-- The hierarchy with a logger, which is made if it is not there. -/
def make (hierarchy : Hierarchy) (logger : Logger) : Hierarchy :=
  if hierarchy.has logger then hierarchy else { made := logger :: hierarchy.made }

/-- The hierarchy with the loggers that names ask for. -/
def ofNames (names : List String) : Hierarchy :=
  names.foldl (fun hierarchy name => hierarchy.make (.named (some name))) initial

/-! ### Being governed -/

/-- The logger of a name that is given from its last character on. -/
def ofReversed (name : List Char) : Logger := { name := String.ofList name.reverse }

/-- The nearest logger above a name is the base or is governed by it; the name is given from its
last character on. -/
def leadsToBase (hierarchy : Hierarchy) : List Char → Bool
  | [] => false
  | '.' :: last :: rest =>
    let above := ofReversed (last :: rest)
    above == .base ||
      if hierarchy.has above then hierarchy.leadsToBase (last :: rest)
      else hierarchy.leadsToBase rest
  | _ :: rest => hierarchy.leadsToBase rest

/-- The level that is set at the base governs a logger. -/
def isGoverned (hierarchy : Hierarchy) (logger : Logger) : Bool :=
  logger == .base || hierarchy.leadsToBase logger.name.toList.reverse

/-! ### Which levels pass -/

/-- The least level that passes where no level is set. -/
def defaultThreshold : Level := Level.warning

/-- The least level that passes at a logger, when a level is set at the base. -/
def threshold (hierarchy : Hierarchy) (logger : Logger) (baseLevel : Level) : Level :=
  if hierarchy.isGoverned logger && baseLevel != Level.unset then baseLevel
  else defaultThreshold

/-- A record of a level passes at a logger, when a level is set at the base. -/
def isEnabled (hierarchy : Hierarchy) (logger : Logger) (baseLevel level : Level) : Bool :=
  decide (0 < level) && decide (hierarchy.threshold logger baseLevel ≤ level)

/-! ### Loggers that are always governed -/

theorem isGoverned_base (hierarchy : Hierarchy) : hierarchy.isGoverned .base = true := by
  simp [isGoverned]

/-- The last part of a name has no say in what the name leads to. -/
theorem leadsToBase_append (hierarchy : Hierarchy) {part : List Char} (plain : '.' ∉ part)
    (rest : List Char) : hierarchy.leadsToBase (part ++ rest) = hierarchy.leadsToBase rest := by
  induction part with
  | nil => rfl
  | cons first part inductionHypothesis =>
    rw [List.mem_cons, not_or] at plain
    rw [List.cons_append, leadsToBase, inductionHypothesis plain.2]
    exact fun _ _ isDot _ => plain.1 isDot.symm

/-- A name that ends with a dot leads to the logger before it, if there is one, and else on from
the character before that. -/
theorem leadsToBase_dot (hierarchy : Hierarchy) (last : Char) (rest : List Char) :
    hierarchy.leadsToBase ('.' :: last :: rest) =
      (ofReversed (last :: rest) == .base ||
        if hierarchy.has (ofReversed (last :: rest)) then hierarchy.leadsToBase (last :: rest)
        else hierarchy.leadsToBase rest) := rfl

theorem leadsToBase_dot_base (hierarchy : Hierarchy) :
    hierarchy.leadsToBase ('.' :: Logger.baseName.toList.reverse) = true := by
  have isBase : ofReversed Logger.baseName.toList.reverse = .base := by
    simp [ofReversed, Logger.base]
  obtain ⟨last, rest, shape⟩ : ∃ last rest, Logger.baseName.toList.reverse = last :: rest :=
    ⟨_, _, rfl⟩
  rw [shape, leadsToBase_dot, ← shape, isBase, beq_self_eq_true, Bool.true_or]

/-- A logger right below the base is governed, whatever loggers there are. -/
theorem isGoverned_child (hierarchy : Hierarchy) {name : String} (plain : '.' ∉ name.toList) :
    hierarchy.isGoverned (.child name) = true := by
  have reversed : (Logger.child name).name.toList.reverse =
      name.toList.reverse ++ '.' :: Logger.baseName.toList.reverse := by
    simp [Logger.child]
  rw [isGoverned, reversed, leadsToBase_append hierarchy (by simpa using plain),
    leadsToBase_dot_base, Bool.or_true]

end Hierarchy

end Stencil.Log
