/-
This file proves what a segment of a name comes to when a list is the innermost scope.

A segment is a numeral where it has digits only, and at least one. Every numeral writes one
number: behind zeros, which count for nothing, stand the digits in which numbers are written. A
list takes a numeral as an index, and goes on in the item with that index or is out of bounds;
what is no numeral is no index. One limit stands before that: a numeral that is too long is not
converted, however small the number is that it writes. So a look-up comes to a value, to an index
error, or to that limit, and it comes to the limit only by a segment that is so long.
-/

import Mathlib.Data.List.Induction
import Stencil.Proofs.ScopeSplit
import Stencil.RenderError

namespace Stencil

/-! ### Numerals -/

/-- A segment has digits only, and at least one. -/
def IsNumeral (segment : String) : Prop :=
  segment.toList ≠ [] ∧ ∀ character ∈ segment.toList, character.isDigit = true

instance (segment : String) : Decidable (IsNumeral segment) :=
  decidable_of_iff (segment.toList ≠ [] ∧ segment.toList.all Char.isDigit = true)
    (and_congr_right fun _ => List.all_eq_true)

/-- A segment writes a number: behind zeros, if any, stand the decimal digits of the number. -/
def Denotes (segment : String) (index : Nat) : Prop :=
  ∃ zeros, segment.toList = List.replicate zeros '0' ++ Nat.toDigits 10 index

theorem natOfDigits_eq (numeral : List Char) :
    Text.natOfDigits numeral = Nat.ofDigitChars 10 numeral 0 := by
  simp only [Text.natOfDigits, Nat.ofDigitChars_eq_foldl, Nat.mul_comm]
  rfl

/-- The value of a numeral is the number that it writes. -/
theorem natOfDigits_of_denotes {segment : String} {index : Nat} (denotes : Denotes segment index) :
    Text.natOfDigits segment.toList = index := by
  obtain ⟨zeros, written⟩ := denotes
  rw [natOfDigits_eq, written, Nat.ofDigitChars_append, Nat.ofDigitChars_replicate_zero,
    Nat.mul_zero, Nat.ofDigitChars_ten_toDigits]

theorem Denotes.unique {segment : String} {index other : Nat} (denotes : Denotes segment index)
    (again : Denotes segment other) : other = index :=
  (natOfDigits_of_denotes again).symm.trans (natOfDigits_of_denotes denotes)

theorem Denotes.isNumeral {segment : String} {index : Nat} (denotes : Denotes segment index) :
    IsNumeral segment := by
  obtain ⟨zeros, written⟩ := denotes
  rw [IsNumeral, written]
  refine ⟨fun empty => Nat.toDigits_ne_nil (List.append_eq_nil_iff.mp empty).2, ?_⟩
  intro character member
  rcases List.mem_append.mp member with zero | digit
  · rw [List.eq_of_mem_replicate zero]
    rfl
  · exact Nat.isDigit_of_mem_toDigits (by decide) (by decide) digit

/-- A digit is how the number of its place is written. -/
theorem exists_toDigits_of_isDigit {character : Char} (digit : character.isDigit = true) :
    ∃ value < 10, Nat.toDigits 10 value = [character] := by
  obtain ⟨above, below⟩ := Char.isDigit_iff_toNat.mp digit
  have zero : '0'.toNat = 48 := rfl
  have nine : '9'.toNat = 57 := rfl
  have small : character.toNat - 48 < 10 := by omega
  refine ⟨character.toNat - 48, small, ?_⟩
  have same : (Nat.digitChar (character.toNat - 48)).toNat = character.toNat := by
    rw [Nat.toNat_digitChar_of_lt_ten small]
    omega
  rw [Nat.toDigits_of_lt_base small, Char.toNat_inj.mp same]

/-- Digits behind each other write a number. The last one is added to ten times what those before
it write, unless these write zero; then they are zeros that count for nothing. -/
theorem exists_toDigits (numeral : List Char) (some : numeral ≠ [])
    (digits : ∀ character ∈ numeral, character.isDigit = true) :
    ∃ index zeros, numeral = List.replicate zeros '0' ++ Nat.toDigits 10 index := by
  induction numeral using List.reverseRecOn with
  | nil => exact absurd rfl some
  | append_singleton before last inductionHypothesis =>
    obtain ⟨before_digits, last_digit⟩ := List.forall_mem_append.mp digits
    obtain ⟨value, small, written⟩ :=
      exists_toDigits_of_isDigit (last_digit last (List.mem_singleton.mpr rfl))
    by_cases alone : before = []
    · exact ⟨value, 0, by rw [alone, written]; rfl⟩
    · obtain ⟨index, zeros, same⟩ := inductionHypothesis alone before_digits
      rw [same, ← written]
      by_cases positive : 0 < index
      · refine ⟨10 * index + value, zeros, ?_⟩
        rw [List.append_assoc, Nat.toDigits_append_toDigits (by decide) positive small]
      · obtain rfl : index = 0 := by omega
        refine ⟨value, zeros + 1, ?_⟩
        rw [Nat.toDigits_zero, List.replicate_succ']

theorem exists_denotes {segment : String} (numeral : IsNumeral segment) :
    ∃ index, Denotes segment index :=
  exists_toDigits segment.toList numeral.1 numeral.2

/-! ### Reading an index -/

theorem parseIndex_eq (segment : String) :
    parseIndex segment =
      if IsNumeral segment then
        if Number.maxDigits < segment.length then .error (.indexTooLong segment.length)
        else .ok (Text.natOfDigits segment.toList)
      else .error (.invalidIndex segment) := by
  have refused : (segment.toList = [] ∨ ¬ segment.toList.all Char.isDigit = true) ↔
      ¬ IsNumeral segment := by
    rw [IsNumeral, List.all_eq_true, not_and_or, not_not]
  simp only [parseIndex, refused, String.length_toList]
  by_cases numeral : IsNumeral segment
  · rw [if_neg (not_not.mpr numeral), if_pos numeral]
  · rw [if_pos numeral, if_neg numeral]

/-- A numeral that is not too long is read as the number that it writes. -/
theorem parseIndex_of_denotes {segment : String} {index : Nat} (denotes : Denotes segment index)
    (short : segment.length ≤ Number.maxDigits) : parseIndex segment = .ok index := by
  rw [parseIndex_eq, if_pos denotes.isNumeral, if_neg (Nat.not_lt.mpr short),
    natOfDigits_of_denotes denotes]

theorem parseIndex_of_long {segment : String} (numeral : IsNumeral segment)
    (long : Number.maxDigits < segment.length) :
    parseIndex segment = .error (.indexTooLong segment.length) := by
  rw [parseIndex_eq, if_pos numeral, if_pos long]

theorem parseIndex_of_not_isNumeral {segment : String} (other : ¬ IsNumeral segment) :
    parseIndex segment = .error (.invalidIndex segment) := by
  rw [parseIndex_eq, if_neg other]

/-! ### Indices of lists -/

/-- A segment is no index of a list of some length: it is no numeral, or it writes a number that is
not below the length, or it is a numeral that is too long to be converted. -/
inductive Misses (segment : String) : LookupError → Prop where
  | invalid (other : ¬ IsNumeral segment) : Misses segment (.invalidIndex segment)
  | outside {index length : Nat} (denotes : Denotes segment index)
      (short : segment.length ≤ Number.maxDigits) (beyond : length ≤ index) :
      Misses segment (.outOfBounds index length)
  | tooLong (numeral : IsNumeral segment) (long : Number.maxDigits < segment.length) :
      Misses segment (.indexTooLong segment.length)

theorem Value.BadIndex.misses {items : List Value} {segment : String} {error : LookupError}
    (bad : Value.BadIndex items segment error) : Misses segment error := by
  by_cases numeral : IsNumeral segment
  · obtain ⟨index, denotes⟩ := exists_denotes numeral
    by_cases long : Number.maxDigits < segment.length
    · cases bad with
      | unread refused =>
        obtain rfl : _ = error := by
          injection (parseIndex_of_long numeral long).symm.trans refused
        exact .tooLong numeral long
      | outside read => cases (parseIndex_of_long numeral long).symm.trans read
    · have short := Nat.not_lt.mp long
      cases bad with
      | unread refused => cases (parseIndex_of_denotes denotes short).symm.trans refused
      | outside read outside =>
        obtain rfl : index = _ := by
          injection (parseIndex_of_denotes denotes short).symm.trans read
        exact .outside denotes short (List.getElem?_eq_none_iff.mp outside)
  · cases bad with
    | unread refused =>
      obtain rfl : _ = error := by
        injection (parseIndex_of_not_isNumeral numeral).symm.trans refused
      exact .invalid numeral
    | outside read => cases (parseIndex_of_not_isNumeral numeral).symm.trans read

namespace Scopes

/-- An error of a look-up comes from a segment that is no index of a list. -/
theorem exists_misses_of_lookup {path : List String} {scopes : Scopes} {error : LookupError}
    (failed : lookup path scopes = .error error) : ∃ segment ∈ path, Misses segment error := by
  induction scopes generalizing path with
  | nil => cases failed
  | cons scope outer inductionHypothesis =>
    have ends := Value.ends_follow path scope
    rw [lookup] at failed
    cases followed : scope.follow path with
    | found reached =>
      rw [followed] at failed
      cases failed
    | failed inside =>
      rw [followed] at failed ends
      obtain rfl : inside = error := by injection failed
      cases ends with
      | failed leads bad => exact ⟨_, List.mem_append_right _ List.mem_cons_self, bad.misses⟩
    | stuck rest =>
      rw [followed] at failed ends
      obtain ⟨segment, member, misses⟩ := inductionHypothesis failed
      cases ends with
      | stuck => exact ⟨segment, List.mem_append_right _ member, misses⟩

theorem lookup_list (items : List Value) (segment : String) (rest : List String)
    (outer : Scopes) :
    lookup (segment :: rest) (.list items :: outer) =
      match parseIndex segment with
      | .error error => .error error
      | .ok index =>
        match items[index]? with
        | none => .error (.outOfBounds index items.length)
        | some item => lookup rest (item :: outer) := by
  rw [lookup, Value.follow]
  cases parseIndex segment with
  | error error => rfl
  | ok index =>
    dsimp only
    cases items[index]? <;> rfl

/-- A list takes a segment as an index. A numeral that is not too long is looked up in the item
with the number that it writes, if there is one, and is out of bounds if there is none; each
numeral writes one number. Any other segment is no index. A numeral that is too long is not
converted at all. So a look-up comes to a value or to an error of one of these kinds, for a segment
of the name, and where no segment is too long, to no limit of numbers. -/
theorem list_takes_index (items : List Value) (segment : String) (rest : List String)
    (outer : Scopes) (path : List String) (scopes : Scopes) :
    (IsNumeral segment ↔ ∃! index, Denotes segment index) ∧
    (∀ index, Denotes segment index → segment.length ≤ Number.maxDigits →
      (∀ inside : index < items.length, lookup (segment :: rest) (.list items :: outer) =
        lookup rest (items[index] :: outer)) ∧
      (items.length ≤ index → lookup (segment :: rest) (.list items :: outer) =
        .error (.outOfBounds index items.length))) ∧
    (IsNumeral segment → Number.maxDigits < segment.length →
      lookup (segment :: rest) (.list items :: outer) = .error (.indexTooLong segment.length)) ∧
    (¬ IsNumeral segment →
      lookup (segment :: rest) (.list items :: outer) = .error (.invalidIndex segment)) ∧
    ((∃ value, lookup path scopes = .ok value) ∨
      ∃ segment ∈ path, ∃ error, Misses segment error ∧ lookup path scopes = .error error) ∧
    ((∀ segment ∈ path, segment.length ≤ Number.maxDigits) →
      ∀ error, lookup path scopes = .error error →
        (RenderError.lookup error).isNumberLimit = false) := by
  refine ⟨?_, fun index denotes short => ⟨fun inside => ?_, fun beyond => ?_⟩,
    fun numeral long => ?_, fun other => ?_, ?_, fun short error failed => ?_⟩
  · constructor
    · intro numeral
      obtain ⟨index, denotes⟩ := exists_denotes numeral
      exact ⟨index, denotes, fun other => denotes.unique⟩
    · rintro ⟨index, denotes, _⟩
      exact denotes.isNumeral
  · rw [lookup_list, parseIndex_of_denotes denotes short]
    simp only [List.getElem?_eq_getElem inside]
  · rw [lookup_list, parseIndex_of_denotes denotes short]
    simp only [List.getElem?_eq_none_iff.mpr beyond]
  · rw [lookup_list, parseIndex_of_long numeral long]
  · rw [lookup_list, parseIndex_of_not_isNumeral other]
  · cases outcome : lookup path scopes with
    | ok value => exact .inl ⟨value, rfl⟩
    | error error =>
      obtain ⟨segment, member, misses⟩ := exists_misses_of_lookup outcome
      exact .inr ⟨segment, member, error, misses, rfl⟩
  · obtain ⟨segment, member, misses⟩ := exists_misses_of_lookup failed
    cases misses with
    | invalid | outside => rfl
    | tooLong numeral long => exact absurd long (Nat.not_lt.mpr (short segment member))

/-- A numeral with a zero in front, one that is out of bounds, and a segment that is none. -/
theorem list_takes_index_padded :
    let items : List Value := [.nil, .map [("a", .string "x")]]
    (Denotes "01" 1 ∧ "01".length ≤ Number.maxDigits ∧
      lookup ["01", "a"] [.list items] = .ok (.string "x")) ∧
    (Denotes "2" 2 ∧ items.length ≤ 2 ∧
      lookup ["2", "a"] [.list items] = .error (.outOfBounds 2 2)) ∧
    (¬ IsNumeral "\u0661" ∧
      lookup ["\u0661", "a"] [.list items] = .error (.invalidIndex "\u0661")) ∧
    (IsNumeral "01" ∧ ∃! index, Denotes "01" index) ∧
    (∀ error, lookup ["2", "a"] [.list items] = .error error →
      (RenderError.lookup error).isNumberLimit = false) := by
  intro items
  have padded : Denotes "01" 1 := ⟨1, rfl⟩
  have beyond : Denotes "2" 2 := ⟨0, rfl⟩
  have other : ¬ IsNumeral "\u0661" := by decide
  have read (segment : String) :=
    list_takes_index items segment ["a"] [] ["2", "a"] [.list items]
  obtain ⟨numeral, indexed, _⟩ := read "01"
  obtain ⟨_, outside, _, _, _, typed⟩ := read "2"
  obtain ⟨_, _, _, refused, _⟩ := read "\u0661"
  exact ⟨⟨padded, by decide, (indexed 1 padded (by decide)).1 (by decide)⟩,
    ⟨beyond, by decide, (outside 2 beyond (by decide)).2 (by decide)⟩, ⟨other, refused other⟩,
    ⟨by decide, numeral.mp (by decide)⟩, typed (by decide)⟩

/-- So many zeros write the number zero, and the list has an item with this index; but they are not
looked up in it, and come to an error that is no index error. -/
theorem zeros_take_no_index :
    let segment := String.ofList (List.replicate 4301 '0')
    let items : List Value := [.string "x"]
    Denotes segment 0 ∧ 0 < items.length ∧
      lookup [segment] [.list items] ≠ lookup [] [.string "x"] ∧
      lookup [segment] [.list items] = .error (.indexTooLong 4301) ∧
      (RenderError.lookup (.indexTooLong 4301)).isNumberLimit = true := by
  intro segment items
  have zeros : segment.toList = List.replicate 4301 '0' := String.toList_ofList
  have denotes : Denotes segment 0 :=
    ⟨4300, by rw [zeros, Nat.toDigits_zero, ← List.replicate_succ']⟩
  have length : segment.length = 4301 := by
    rw [← String.length_toList, zeros, List.length_replicate]
  have long : Number.maxDigits < segment.length := by
    rw [length]
    decide
  have refused : lookup [segment] [.list items] = .error (.indexTooLong 4301) := by
    rw [lookup_list, parseIndex_of_long denotes.isNumeral long, length]
  refine ⟨denotes, Nat.one_pos, ?_, refused, rfl⟩
  rw [refused]
  nofun

end Scopes

end Stencil
