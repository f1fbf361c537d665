/-
This file reads the directives of a pattern.

A directive begins with a percent sign and ends with a letter that says how its argument is
written. Before the letter stand, in this order, the name of a field in parentheses, flags, a
width, a point with a precision, and a letter for the size of numbers, which says nothing;
all of them may be left out. A star in the place of a width or a precision takes it from the
next argument. The parts are read one behind the other, so of two faults the first one is
reported.
-/

import Stencil.Log.Message.Arguments
import Stencil.Number.Power

namespace Stencil.Log

/-- A directive of a pattern, without its argument. -/
structure Directive where
  /-- The text stands to the left of its padding. -/
  left : Bool := false
  /-- A number that is not negative has a plus sign. -/
  plus : Bool := false
  /-- A number that is not negative and has no plus sign has a blank instead. -/
  blank : Bool := false
  /-- A number is padded with zeros behind its sign. -/
  zeros : Bool := false
  /-- The alternate form: the mark of a base, or a point and the zeros behind it. -/
  alternate : Bool := false
  width : Nat := 0
  precision : Option Nat := none
  letter : Char
  deriving DecidableEq, Repr

namespace Directive

/-- What reading a part of a directive gives: the directive as far as it has been read, the
arguments that are left, and the text behind the part. -/
abbrev Reading := Except MessageFault (Directive × Arguments × List Char)

/-! ### The parts -/

/-- Splits the name of a field from the text behind its closing parenthesis. Parentheses inside
the name come in pairs; a number of them has been opened and not closed. -/
def splitName? (opened : Nat) : List Char → Option (List Char × List Char)
  | [] => none
  | first :: rest =>
    if first = ')' then
      match opened with
      | 0 => some ([], rest)
      | opened + 1 => (splitName? opened rest).map fun (name, behind) => (first :: name, behind)
    else
      (splitName? (if first = '(' then opened + 1 else opened) rest).map
        fun (name, behind) => (first :: name, behind)

/-- Reads the name of a field, if one is given, and makes the field the next argument. -/
def readName (directive : Directive) (arguments : Arguments) : List Char → Reading
  | '(' :: rest =>
    if !arguments.areNamed then .error .notAnObject
    else
      match splitName? 0 rest with
      | none => .error .incompleteName
      | some (name, behind) =>
        (arguments.select (String.ofList name)).map fun arguments =>
          (directive, arguments, behind)
  | text => .ok (directive, arguments, text)

/-- Reads the flags of a directive: what they say, and the text behind them. -/
def readFlags (directive : Directive) : List Char → Directive × List Char
  | [] => (directive, [])
  | first :: rest =>
    if first = '-' then readFlags { directive with left := true } rest
    else if first = '+' then readFlags { directive with plus := true } rest
    else if first = ' ' then readFlags { directive with blank := true } rest
    else if first = '0' then readFlags { directive with zeros := true } rest
    else if first = '#' then readFlags { directive with alternate := true } rest
    else (directive, first :: rest)

/-- Reads a number of common digits, which is zero where there is none. -/
def readNumber (text : List Char) : Nat × List Char :=
  (Text.natOfDigits (text.takeWhile Char.isDigit), text.dropWhile Char.isDigit)

/-- Takes a width or a precision from the next argument. -/
def takeSize (arguments : Arguments) : Except MessageFault (Int × Arguments) :=
  match arguments.take with
  | .error fault => .error fault
  | .ok (.integer size, arguments) => .ok (size, arguments)
  | .ok (.bool value, arguments) => .ok (if value then 1 else 0, arguments)
  | .ok _ => .error .sizeNotInteger

/-- The directive with a width that an argument gives; a negative one stands for a text to the
left of its padding. The least number of 64 bits has no positive counterpart and counts as no
width. -/
def withWidth (directive : Directive) (size : Int) : Except MessageFault Directive :=
  if size < -Number.limit64 ∨ Number.limit64 ≤ size then .error .widthOutOfReach
  else if size < 0 then
    .ok { directive with
      left := true, width := if size = -Number.limit64 then 0 else size.natAbs }
  else .ok { directive with width := size.toNat }

/-- Reads the width of a directive. -/
def readWidth (directive : Directive) (arguments : Arguments) : List Char → Reading
  | '*' :: rest =>
    match takeSize arguments with
    | .error fault => .error fault
    | .ok (size, arguments) =>
      (directive.withWidth size).map fun directive => (directive, arguments, rest)
  | text =>
    let (width, behind) := readNumber text
    if Number.limit64 ≤ width then .error .widthTooLarge
    else .ok ({ directive with width }, arguments, behind)

/-- The directive with a precision that an argument gives; a negative one counts as zero. -/
def withPrecision (directive : Directive) (size : Int) : Except MessageFault Directive :=
  if size < -Number.limit32 ∨ Number.limit32 ≤ size then .error .precisionOutOfReach
  else .ok { directive with precision := some size.toNat }

/-- Reads the precision of a directive, which stands behind a point. -/
def readPrecision (directive : Directive) (arguments : Arguments) : List Char → Reading
  | '.' :: '*' :: rest =>
    match takeSize arguments with
    | .error fault => .error fault
    | .ok (size, arguments) =>
      (directive.withPrecision size).map fun directive => (directive, arguments, rest)
  | '.' :: text =>
    let (precision, behind) := readNumber text
    if Number.limit32 ≤ precision then .error .precisionTooLarge
    else .ok ({ directive with precision := some precision }, arguments, behind)
  | text => .ok (directive, arguments, text)

/-- Passes over a letter for the size of a number, which says nothing. -/
def skipSize : List Char → List Char
  | [] => []
  | first :: rest => if first = 'h' ∨ first = 'l' ∨ first = 'L' then rest else first :: rest

/-- Reads the letter of a directive. -/
def readLetter (directive : Directive) (arguments : Arguments) (text : List Char) : Reading :=
  match skipSize text with
  | [] => .error .incomplete
  | letter :: rest => .ok ({ directive with letter }, arguments, rest)

/-- Reads a directive behind its percent sign. -/
def read (arguments : Arguments) (text : List Char) : Reading :=
  (readName { letter := '%' } arguments text).bind fun (directive, arguments, text) =>
    let (directive, text) := directive.readFlags text
    (directive.readWidth arguments text).bind fun (directive, arguments, text) =>
      (directive.readPrecision arguments text).bind fun (directive, arguments, text) =>
        directive.readLetter arguments text

/-! ### Reading moves on -/

/-- A reading leaves no more than a number of characters behind. -/
def Within (bound : Nat) (reading : Reading) : Prop :=
  ∀ directive arguments behind, reading = .ok (directive, arguments, behind) →
    behind.length ≤ bound

/-- Two readings in a row leave no more than the second one does. -/
theorem Within.bind {first bound : Nat} {reading : Reading}
    {next : Directive × Arguments × List Char → Reading} (within : Within first reading)
    (each : ∀ directive arguments behind, behind.length ≤ first →
      Within bound (next (directive, arguments, behind))) :
    Within bound (Except.bind reading next) := by
  cases reading with
  | error fault => exact fun _ _ _ found => nomatch found
  | ok result =>
    obtain ⟨directive, arguments, behind⟩ := result
    exact each directive arguments behind (within directive arguments behind rfl)

theorem within_map {result : Except MessageFault Directive} {arguments : Arguments}
    {behind : List Char} {bound : Nat} (short : behind.length ≤ bound) :
    Within bound (result.map fun directive => (directive, arguments, behind)) := by
  cases result with
  | error fault => exact fun _ _ _ found => nomatch found
  | ok directive =>
    intro _ _ _ found
    cases found
    exact short

theorem splitName?_length {opened : Nat} {text name behind : List Char}
    (found : splitName? opened text = some (name, behind)) : behind.length ≤ text.length := by
  induction text generalizing opened name behind with
  | nil => cases found
  | cons first rest inductionHypothesis =>
    simp only [splitName?] at found
    split at found
    · split at found
      · cases found
        exact Nat.le_succ _
      · obtain ⟨split, more, same⟩ := Option.map_eq_some_iff.mp found
        cases same
        exact Nat.le_succ_of_le (inductionHypothesis more)
    · obtain ⟨split, more, same⟩ := Option.map_eq_some_iff.mp found
      cases same
      exact Nat.le_succ_of_le (inductionHypothesis more)

theorem readName_within (directive : Directive) (arguments : Arguments) (text : List Char) :
    Within text.length (readName directive arguments text) := by
  unfold readName
  split
  · rename_i rest
    split
    · exact fun _ _ _ found => nomatch found
    · split
      · exact fun _ _ _ found => nomatch found
      · rename_i name behind split
        have short : behind.length ≤ rest.length := splitName?_length split
        cases arguments.select (String.ofList name) with
        | error fault => exact fun _ _ _ found => nomatch found
        | ok selected =>
          intro _ _ _ found
          cases found
          exact Nat.le_succ_of_le short
  · intro _ _ _ found
    cases found
    exact Nat.le_refl _

theorem readFlags_length (directive : Directive) (text : List Char) :
    (readFlags directive text).2.length ≤ text.length := by
  induction text generalizing directive with
  | nil => exact Nat.le_refl _
  | cons first rest inductionHypothesis =>
    simp only [readFlags]
    repeat' split
    all_goals first
      | exact Nat.le_refl _
      | exact Nat.le_succ_of_le (inductionHypothesis _)

theorem readNumber_length (text : List Char) : (readNumber text).2.length ≤ text.length :=
  (List.dropWhile_suffix _).length_le

theorem readWidth_within (directive : Directive) (arguments : Arguments) (text : List Char) :
    Within text.length (readWidth directive arguments text) := by
  unfold readWidth
  split
  · split
    · exact fun _ _ _ found => nomatch found
    · exact within_map (Nat.le_succ _)
  · dsimp only
    split
    · exact fun _ _ _ found => nomatch found
    · intro _ _ _ found
      cases found
      exact readNumber_length _

theorem readPrecision_within (directive : Directive) (arguments : Arguments)
    (text : List Char) : Within text.length (readPrecision directive arguments text) := by
  unfold readPrecision
  split
  · split
    · exact fun _ _ _ found => nomatch found
    · exact within_map (Nat.le_add_right _ 2)
  · dsimp only
    split
    · exact fun _ _ _ found => nomatch found
    · intro _ _ _ found
      cases found
      exact Nat.le_succ_of_le (readNumber_length _)
  · intro _ _ _ found
    cases found
    exact Nat.le_refl _

theorem skipSize_length (text : List Char) : (skipSize text).length ≤ text.length := by
  cases text with
  | nil => exact Nat.le_refl _
  | cons first rest =>
    simp only [skipSize]
    split
    · exact Nat.le_succ _
    · exact Nat.le_refl _

theorem readLetter_within (directive : Directive) (arguments : Arguments) (text : List Char) :
    Within text.length (readLetter directive arguments text) := by
  unfold readLetter
  have size := skipSize_length text
  split
  · exact fun _ _ _ found => nomatch found
  · rename_i letter rest shape
    intro _ _ _ found
    cases found
    rw [shape, List.length_cons] at size
    omega

/-- A directive that is read leaves no more than there was behind its percent sign. -/
theorem read_within (arguments : Arguments) (text : List Char) :
    Within text.length (read arguments text) := by
  refine (readName_within _ arguments text).bind fun directive arguments named nameShort => ?_
  have flags := readFlags_length directive named
  refine (readWidth_within _ arguments _).bind fun directive arguments wide wideShort => ?_
  refine (readPrecision_within directive arguments wide).bind
    fun directive arguments precise preciseShort => ?_
  intro letter left behind found
  have last := readLetter_within directive arguments precise letter left behind found
  omega

end Directive

end Stencil.Log
