/-
This file proves for which values a specification runs into a limit of numbers.

An integer is taken to the double format where a presentation of such numbers is asked for, and it
is taken for the number of a character where a character is asked for and nothing that characters
are not written with. These are the two places where an integer can be too large. The third limit
is the memory for a field, which is a parameter, and it is only met by a value that can be written
without its width. Every other value that a specification does not suit is a fault of the
specification.
-/

import Stencil.Format.Primitive
import Stencil.Proofs.DoubleRange

namespace Stencil

open Number (Binary64)

/-- What reading or laying out finds at fault is a fault. -/
theorem exists_fault_of_mapError {α : Type} {outcome : Except FormatFault α} {error : FormatError}
    (failed : outcome.mapError FormatError.malformed = .error error) :
    ∃ fault, error = .malformed fault := by
  cases outcome with
  | ok value => cases failed
  | error fault =>
    cases failed
    exact ⟨fault, rfl⟩

namespace Specification

/-! ### Integers -/

/-- A specification asks for the character of a number, and for nothing that characters are not
written with. -/
def AsksCharacter (specification : Specification) : Prop :=
  specification.code = 'c' ∧ specification.precision = none ∧
    specification.dropsZeroSign = false ∧ specification.sign = none ∧
    specification.alternate = false

/-- The presentations for which an integer is taken to the double format. -/
def doubleCodes : List Char := ['e', 'E', 'f', 'F', 'g', 'G', '%']

/-- An integer is too large for what a specification asks of it: it has no double, or it is no
machine word and can be no number of a character, or it is a machine word and still none. -/
def TooLarge (specification : Specification) (value : Int) : NumberOverflow → Prop
  | .double => specification.code ∈ doubleCodes ∧ Binary64.wholeLimit ≤ value.natAbs
  | .word =>
    specification.AsksCharacter ∧ ¬ (-Number.limit64 ≤ value ∧ value < Number.limit64)
  | .character =>
    specification.AsksCharacter ∧ (-Number.limit64 ≤ value ∧ value < Number.limit64) ∧
      ¬ (0 ≤ value ∧ value < 0x110000)
  | .memory => False

theorem isRealCode_iff_mem_doubleCodes (code : Char) :
    (isRealCode code && code ≠ 'n' && code ≠ '\x00') = true ↔ code ∈ doubleCodes := by
  simp [isRealCode, doubleCodes]
  grind

/-- The width of a field has no part in what its integer is too large for. -/
theorem tooLarge_width_iff (specification : Specification) (width : Option Nat) (value : Int)
    (cause : NumberOverflow) :
    { specification with width }.TooLarge value cause ↔ specification.TooLarge value cause := by
  cases cause <;> exact Iff.rfl

/-- An integer is the number of a character, or no machine word, or a machine word beyond the
characters. -/
theorem characterParts_cases (value : Int) :
    (∃ parts, characterParts value = .ok parts ∧
        (-Number.limit64 ≤ value ∧ value < Number.limit64) ∧ 0 ≤ value ∧ value < 0x110000) ∨
      (characterParts value = .error .word ∧
        ¬ (-Number.limit64 ≤ value ∧ value < Number.limit64)) ∨
      (characterParts value = .error .character ∧
        (-Number.limit64 ≤ value ∧ value < Number.limit64) ∧
        ¬ (0 ≤ value ∧ value < 0x110000)) := by
  unfold characterParts
  by_cases large : value < -Number.limit64 ∨ Number.limit64 ≤ value
  · rw [if_pos large]
    exact .inr (.inl ⟨rfl, by omega⟩)
  · rw [if_neg large]
    by_cases other : value < 0 ∨ 0x110000 ≤ value
    · rw [if_pos other]
      exact .inr (.inr ⟨rfl, by omega, by omega⟩)
    · rw [if_neg other]
      exact .inl ⟨_, rfl, by omega, by omega⟩

theorem layoutInteger_of_double {specification : Specification}
    (asks : specification.code ∈ doubleCodes) (value : Int) :
    specification.layoutInteger value =
      match Binary64.ofInt? value with
      | none => .error (.overflow .double)
      | some real => (specification.layoutReal real).mapError .malformed := by
  unfold layoutInteger
  exact if_pos ((isRealCode_iff_mem_doubleCodes _).mpr asks)

theorem layoutInteger_of_asksCharacter {specification : Specification}
    (asks : specification.AsksCharacter) (value : Int) :
    specification.layoutInteger value =
      match characterParts value with
      | .error cause => .error (.overflow cause)
      | .ok parts => .ok (specification.layoutNumber parts) := by
  obtain ⟨code, precision, zeroSign, sign, alternate⟩ := asks
  have integral : isRealCode 'c' = false := by decide
  cases parts : characterParts value <;>
    simp [layoutInteger, code, precision, zeroSign, sign, alternate, integral, parts]

/-- In every other presentation an integer is written, or it is a fault to ask for it. -/
theorem exists_fault_of_layoutInteger {specification : Specification}
    (noDouble : specification.code ∉ doubleCodes) (noCharacter : ¬ specification.AsksCharacter)
    {value : Int} {error : FormatError}
    (failed : specification.layoutInteger value = .error error) :
    ∃ fault, error = .malformed fault := by
  rw [layoutInteger, if_neg (noDouble ∘ (isRealCode_iff_mem_doubleCodes _).mp)] at failed
  split at failed
  · cases failed
    exact ⟨_, rfl⟩
  split at failed
  · cases failed
    exact ⟨_, rfl⟩
  split at failed
  · cases failed
    exact ⟨_, rfl⟩
  split at failed
  · split at failed
    · cases failed
      exact ⟨_, rfl⟩
    · cases failed
  split at failed
  · cases failed
    exact ⟨_, rfl⟩
  split at failed
  · cases failed
    exact ⟨_, rfl⟩
  -- Only a character is left, and nothing has been asked for that it is not written with.
  rename_i precision zeroSign code sign alternate
  refine absurd ⟨Decidable.not_not.mp code, ?_, ?_, ?_, ?_⟩ noCharacter <;> simp_all

/-- Laying out an integer runs into a limit exactly where the integer is too large for what is
asked of it. -/
theorem layoutInteger_eq_overflow_iff (specification : Specification) (value : Int)
    (cause : NumberOverflow) :
    specification.layoutInteger value = .error (.overflow cause) ↔
      specification.TooLarge value cause := by
  by_cases double : specification.code ∈ doubleCodes
  · have noCharacter : ¬ specification.AsksCharacter := by
      rintro ⟨code, _⟩
      rw [code] at double
      exact absurd double (by decide)
    rw [layoutInteger_of_double double]
    cases converted : Binary64.ofInt? value with
    | none =>
      have large := (Binary64.ofInt?_eq_none_iff value).mp converted
      cases cause <;> simp [TooLarge, double, large, noCharacter]
    | some real =>
      have small : ¬ Binary64.wholeLimit ≤ value.natAbs := by
        rw [← Binary64.ofInt?_eq_none_iff, converted]
        nofun
      refine iff_of_false (fun failed => nomatch exists_fault_of_mapError failed) ?_
      cases cause <;> simp [TooLarge, small, noCharacter]
  · by_cases asks : specification.AsksCharacter
    · rw [layoutInteger_of_asksCharacter asks]
      rcases characterParts_cases value with
        ⟨parts, same, fits, inside⟩ | ⟨same, large⟩ | ⟨same, fits, large⟩
      · rw [same]
        refine iff_of_false nofun ?_
        cases cause <;> simp [TooLarge, double, fits, inside]
      · rw [same]
        cases cause <;> simp [TooLarge, double, asks, large]
      · rw [same]
        cases cause <;> simp [TooLarge, double, asks, fits, large]
    · refine iff_of_false
        (fun failed => nomatch exists_fault_of_layoutInteger double asks failed) ?_
      cases cause <;> simp [TooLarge, double, asks]

/-- Laying out an integer never names a placeholder. -/
theorem layoutInteger_ne_unknownPlaceholder (specification : Specification) (value : Int)
    (key : String) : specification.layoutInteger value ≠ .error (.unknownPlaceholder key) := by
  by_cases double : specification.code ∈ doubleCodes
  · rw [layoutInteger_of_double double]
    cases Binary64.ofInt? value with
    | none => nofun
    | some real => exact fun failed => nomatch exists_fault_of_mapError failed
  · by_cases asks : specification.AsksCharacter
    · rw [layoutInteger_of_asksCharacter asks]
      cases characterParts value <;> nofun
    · exact fun failed => nomatch exists_fault_of_layoutInteger double asks failed

/-- An integer that is the number of a character is too large for nothing. -/
theorem not_tooLarge_of_character (specification : Specification) {value : Int} (low : 0 ≤ value)
    (high : value < 0x110000) (cause : NumberOverflow) : ¬ specification.TooLarge value cause := by
  cases cause with
  | double =>
    have limit : 0x110000 < Binary64.wholeLimit := by decide +kernel
    exact fun ⟨_, large⟩ => by omega
  | word =>
    have limit : 0x110000 < Number.limit64 := by decide
    exact fun ⟨_, large⟩ => large ⟨by omega, by omega⟩
  | character => exact fun ⟨_, _, large⟩ => large ⟨low, high⟩
  | memory => exact id

theorem parse_nil (kind : PrimitiveKind) :
    parse kind [] = .ok { alignment := defaultAlignment kind, code := defaultCode kind } := by
  cases kind <;> rfl

end Specification

namespace Primitive

/-! ### Values -/

theorem layout_eq_overflow_iff (value : Primitive) (specification : Specification)
    (cause : NumberOverflow) :
    value.layout specification = .error (.overflow cause) ↔
      ∃ number, value = .integer number ∧ specification.TooLarge number cause := by
  cases value with
  | text text =>
    refine iff_of_false (fun failed => nomatch exists_fault_of_mapError failed) ?_
    rintro ⟨_, ⟨⟩, _⟩
  | integer number =>
    rw [layout, Specification.layoutInteger_eq_overflow_iff]
    exact ⟨fun large => ⟨number, rfl, large⟩, fun ⟨_, same, large⟩ => by cases same; exact large⟩
  | real real =>
    refine iff_of_false ?_ (by rintro ⟨_, ⟨⟩, _⟩)
    rw [layout]
    split
    · exact fun failed => nomatch exists_fault_of_mapError failed
    · nofun

variable [Memory]

/-- A value is beyond what a specification can be applied to: it is an integer that is too large
for what is asked of it, or memory does not hold its field, and without the width it is written. -/
inductive Exceeds (value : Primitive) (text : List Char) : NumberOverflow → Prop where
  | number {number : Int} {parsed : Specification} {cause : NumberOverflow}
      (isInteger : value = .integer number) (read : Specification.parse .integer text = .ok parsed)
      (large : parsed.TooLarge number cause) : Exceeds value text cause
  | memory {parsed : Specification} {written : List Char}
      (read : Specification.parse value.kind text = .ok parsed)
      (wide : Memory.holds (parsed.width.getD 0) = false)
      (narrow : value.layout { parsed with width := none } = .ok written) :
      Exceeds value text .memory

/-- A value that is no integer, or the number of a character, is only beyond memory. -/
theorem Exceeds.eq_memory {value : Primitive} {text : List Char} {cause : NumberOverflow}
    (exceeds : value.Exceeds text cause)
    (characters : ∀ number, value = .integer number → 0 ≤ number ∧ number < 0x110000) :
    cause = .memory := by
  cases exceeds with
  | number isInteger _ large =>
    obtain ⟨low, high⟩ := characters _ isInteger
    exact absurd large (Specification.not_tooLarge_of_character _ low high cause)
  | memory => rfl

theorem not_exceeds_nil (value : Primitive) (cause : NumberOverflow) :
    ¬ value.Exceeds [] cause := by
  rintro (⟨rfl, read, large⟩ | ⟨read, wide, _⟩)
  · rw [Specification.parse_nil] at read
    cases read
    cases cause with
    | double => exact absurd large.1 (by decide)
    | word | character => exact absurd large.1.1 (by decide)
    | memory => exact large
  · rw [Specification.parse_nil] at read
    cases read
    cases Memory.holds_zero.symm.trans wide

/-- What a value exceeds is settled by laying it out as the specification says. -/
theorem exceeds_iff_of_parse {value : Primitive} {text : List Char} {parsed : Specification}
    (read : Specification.parse value.kind text = .ok parsed) (cause : NumberOverflow) :
    value.Exceeds text cause ↔
      value.layout parsed = .error (.overflow cause) ∨
        cause = .memory ∧ Memory.holds (parsed.width.getD 0) = false ∧
          ∃ written, value.layout { parsed with width := none } = .ok written := by
  constructor
  · rintro (⟨rfl, again, large⟩ | ⟨again, wide, narrow⟩)
    · cases read.symm.trans again
      exact .inl ((layout_eq_overflow_iff _ _ _).mpr ⟨_, rfl, large⟩)
    · cases read.symm.trans again
      exact .inr ⟨rfl, wide, _, narrow⟩
  · rintro (failed | ⟨rfl, wide, written, narrow⟩)
    · obtain ⟨number, rfl, large⟩ := (layout_eq_overflow_iff _ _ _).mp failed
      exact .number rfl read large
    · exact .memory read wide narrow

/-- Writing a value as the text of a specification says runs into a limit exactly where the value
is beyond the specification. -/
theorem format_eq_overflow_iff (value : Primitive) (text : List Char) (cause : NumberOverflow) :
    value.format text = .error (.overflow cause) ↔ value.Exceeds text cause := by
  by_cases empty : text = []
  · subst empty
    exact iff_of_false (fun failed => nomatch exists_fault_of_mapError failed)
      (not_exceeds_nil value cause)
  rw [format, if_neg empty]
  cases read : Specification.parse value.kind text with
  | error fault =>
    refine iff_of_false nofun ?_
    rintro (⟨rfl, parsed, _⟩ | ⟨parsed, _, _⟩) <;> cases read.symm.trans parsed
  | ok parsed =>
    have sameLimits : value.layout { parsed with width := none } = .error (.overflow cause) ↔
        value.layout parsed = .error (.overflow cause) := by
      simp only [layout_eq_overflow_iff, Specification.tooLarge_width_iff]
    rw [exceeds_iff_of_parse read]
    cases fits : Memory.holds (parsed.width.getD 0) with
    | true => simp [fits]
    | false =>
      simp only [fits, Bool.false_eq_true, if_false]
      cases narrow : value.layout { parsed with width := none } with
      | ok written =>
        have noLimit : value.layout parsed ≠ .error (.overflow cause) := by
          rw [ne_eq, ← sameLimits, narrow]
          nofun
        simp [noLimit, Except.bind, eq_comm]
      | error error =>
        rw [← sameLimits, narrow]
        simp [Except.bind]

/-- Where memory has room for nine characters, a field of ten runs into its limit. -/
example : @format { holds width := decide (width ≤ 9), holds_zero := rfl } (.text "a") ['1', '0'] =
    .error (.overflow .memory) := rfl

/-- A value that cannot be written is at fault or runs into a limit; it never names a
placeholder. -/
theorem format_ne_unknownPlaceholder (value : Primitive) (text : List Char) (key : String) :
    value.format text ≠ .error (.unknownPlaceholder key) := by
  have layout (specification : Specification) :
      value.layout specification ≠ .error (.unknownPlaceholder key) := by
    cases value with
    | text text => exact fun failed => nomatch exists_fault_of_mapError failed
    | integer number => exact specification.layoutInteger_ne_unknownPlaceholder number key
    | real real =>
      rw [Primitive.layout]
      split
      · exact fun failed => nomatch exists_fault_of_mapError failed
      · nofun
  unfold format
  split
  · exact fun failed => nomatch exists_fault_of_mapError failed
  · cases Specification.parse value.kind text with
    | error fault => nofun
    | ok parsed =>
      dsimp only
      split
      · exact layout parsed
      · intro failed
        cases narrow : value.layout { parsed with width := none } with
        | ok written =>
          rw [narrow] at failed
          cases failed
        | error error =>
          rw [narrow] at failed
          cases failed
          exact layout _ narrow

end Primitive

end Stencil
