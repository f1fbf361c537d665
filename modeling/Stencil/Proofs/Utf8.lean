/-
This file proves that bytes are decoded as UTF-8 to a text just if they are the UTF-8 of that text.

The bytes of a character are the digits of its number, six bits in each byte behind the first. What
may come behind a first byte is said once for every character that has begun: so many bytes, each
within its bounds, and the number that they complete. The first byte tells how many bytes there are;
the bounds of the second one rule out just the numbers that have fewer digits, the halves of pairs
and what is beyond the last character.
-/

import Stencil.Encoding.Utf8

namespace Stencil.Encoding.Utf8

/-! ### Characters that have begun -/

/-- Bytes complete a character that has begun, whose number is then the given one. -/
def Begun.Completes (begun : Begun) : List UInt8 → Nat → Prop
  | [], _ => False
  | byte :: tail, value =>
    (begun.least ≤ byte.toNat ∧ byte.toNat ≤ begun.greatest) ∧
      if (begun.extend byte).missing = 0 then tail = [] ∧ (begun.extend byte).value = value
      else (begun.extend byte).Completes tail value

theorem Begun.completes_last {begun : Begun} (one : begun.missing = 1) {tail : List UInt8}
    {value : Nat} :
    begun.Completes tail value ↔ ∃ byte : UInt8, tail = [byte] ∧
      (begun.least ≤ byte.toNat ∧ byte.toNat ≤ begun.greatest) ∧
      begun.value * 64 + (byte.toNat - 0x80) = value := by
  cases tail with
  | nil => simp [Completes]
  | cons byte tail =>
    have last : (begun.extend byte).missing = 0 := by simp [extend, one]
    rw [Completes, if_pos last]
    constructor
    · rintro ⟨bounds, rfl, reached⟩
      exact ⟨byte, rfl, bounds, reached⟩
    · rintro ⟨_, ⟨⟩, bounds, reached⟩
      exact ⟨bounds, rfl, reached⟩

theorem Begun.completes_more {begun : Begun} (more : 2 ≤ begun.missing) {tail : List UInt8}
    {value : Nat} :
    begun.Completes tail value ↔ ∃ (byte : UInt8) (rest : List UInt8), tail = byte :: rest ∧
      (begun.least ≤ byte.toNat ∧ byte.toNat ≤ begun.greatest) ∧
      (begun.extend byte).Completes rest value := by
  cases tail with
  | nil => simp [Completes]
  | cons byte tail =>
    have further : (begun.extend byte).missing ≠ 0 := by
      simp only [extend]
      omega
    rw [Completes, if_neg further]
    constructor
    · rintro ⟨bounds, reached⟩
      exact ⟨byte, tail, rfl, bounds, reached⟩
    · rintro ⟨_, _, ⟨⟩, bounds, reached⟩
      exact ⟨bounds, reached⟩

/-! ### First bytes -/

section First

variable {first : UInt8}

theorem begin?_eq_none (outside : first.toNat < 0xC2 ∨ 0xF5 ≤ first.toNat) :
    begin? first = none := by
  unfold begin?
  rcases outside with below | above
  · rw [if_pos below]
  · iterate 8 rw [if_neg (by omega)]

theorem begin?_two (least : 0xC2 ≤ first.toNat) (below : first.toNat < 0xE0) :
    begin? first = some {
      first, count := 1, missing := 1, least := 0x80, greatest := 0xBF,
      value := first.toNat - 0xC0 } := by
  rw [begin?, if_neg (by omega), if_pos below]

theorem begin?_three (least : 0xE0 ≤ first.toNat) (below : first.toNat < 0xF0) :
    begin? first = some {
      first, count := 1, missing := 2,
      least := if first.toNat = 0xE0 then 0xA0 else 0x80,
      greatest := if first.toNat = 0xED then 0x9F else 0xBF,
      value := first.toNat - 0xE0 } := by
  rw [begin?, if_neg (by omega), if_neg (by omega)]
  by_cases lowest : first.toNat = 0xE0
  · simp [lowest]
  · by_cases pairs : first.toNat = 0xED
    · simp [pairs]
    · simp [lowest, pairs, below]

theorem begin?_four (least : 0xF0 ≤ first.toNat) (below : first.toNat < 0xF5) :
    begin? first = some {
      first, count := 1, missing := 3,
      least := if first.toNat = 0xF0 then 0x90 else 0x80,
      greatest := if first.toNat = 0xF4 then 0x8F else 0xBF,
      value := first.toNat - 0xF0 } := by
  rw [begin?, if_neg (by omega), if_neg (by omega), if_neg (by omega), if_neg (by omega),
    if_neg (by omega)]
  by_cases lowest : first.toNat = 0xF0
  · simp [lowest]
  · by_cases last : first.toNat = 0xF4
    · simp [last]
    · simp [lowest, last, show first.toNat < 0xF4 by omega]

end First

/-! ### The bytes of a character -/

section Characters

variable {character : Char} {first : UInt8} {tail : List UInt8}

theorem encodeChar_one (common : character.toNat < 0x80) :
    String.utf8EncodeChar character = [UInt8.ofNat character.toNat] := by
  rw [String.utf8EncodeChar, if_pos (by rw [Char.toNat_val]; omega), Char.toNat_val]

/-- The bound stands as a numeral, for arithmetic to find. -/
theorem toNat_ofNat {value : Nat} (small : value < 256) : (UInt8.ofNat value).toNat = value :=
  UInt8.toNat_ofNat_of_lt' small

theorem ofNat_eq_iff {value : Nat} (small : value < 256) {byte : UInt8} :
    UInt8.ofNat value = byte ↔ byte.toNat = value := by
  rw [← UInt8.toNat_inj, toNat_ofNat small, eq_comm]

theorem encodeChar_two (least : 0x80 ≤ character.toNat) (most : character.toNat ≤ 0x7FF) :
    String.utf8EncodeChar character = first :: tail ↔
      ∃ second : UInt8, tail = [second] ∧ first.toNat = 0xC0 + character.toNat / 64 ∧
        second.toNat = 0x80 + character.toNat % 64 := by
  rw [String.utf8EncodeChar, Char.toNat_val, if_neg (by omega), if_pos most, List.cons.injEq,
    ofNat_eq_iff (by omega)]
  constructor
  · rintro ⟨sameFirst, rfl⟩
    exact ⟨_, rfl, by omega, by rw [toNat_ofNat (by omega)]; omega⟩
  · rintro ⟨second, rfl, sameFirst, sameSecond⟩
    exact ⟨by omega, by rw [(ofNat_eq_iff (by omega)).mpr (show second.toNat = _ by omega)]⟩

theorem encodeChar_three (least : 0x800 ≤ character.toNat) (most : character.toNat ≤ 0xFFFF) :
    String.utf8EncodeChar character = first :: tail ↔
      ∃ second third : UInt8, tail = [second, third] ∧
        first.toNat = 0xE0 + character.toNat / 4096 ∧
        second.toNat = 0x80 + character.toNat / 64 % 64 ∧
        third.toNat = 0x80 + character.toNat % 64 := by
  rw [String.utf8EncodeChar, Char.toNat_val, if_neg (by omega), if_neg (by omega), if_pos most,
    List.cons.injEq, ofNat_eq_iff (by omega)]
  constructor
  · rintro ⟨sameFirst, rfl⟩
    exact ⟨_, _, rfl, by omega, by rw [toNat_ofNat (by omega)]; omega,
      by rw [toNat_ofNat (by omega)]; omega⟩
  · rintro ⟨second, third, rfl, sameFirst, sameSecond, sameThird⟩
    exact ⟨by omega, by rw [(ofNat_eq_iff (by omega)).mpr (show second.toNat = _ by omega),
      (ofNat_eq_iff (by omega)).mpr (show third.toNat = _ by omega)]⟩

theorem encodeChar_four (least : 0x10000 ≤ character.toNat) (most : character.toNat ≤ 0x10FFFF) :
    String.utf8EncodeChar character = first :: tail ↔
      ∃ second third fourth : UInt8, tail = [second, third, fourth] ∧
        first.toNat = 0xF0 + character.toNat / 262144 ∧
        second.toNat = 0x80 + character.toNat / 4096 % 64 ∧
        third.toNat = 0x80 + character.toNat / 64 % 64 ∧
        fourth.toNat = 0x80 + character.toNat % 64 := by
  rw [String.utf8EncodeChar, Char.toNat_val, if_neg (by omega), if_neg (by omega),
    if_neg (by omega), List.cons.injEq, ofNat_eq_iff (by omega)]
  constructor
  · rintro ⟨sameFirst, rfl⟩
    exact ⟨_, _, _, rfl, by omega, by rw [toNat_ofNat (by omega)]; omega,
      by rw [toNat_ofNat (by omega)]; omega, by rw [toNat_ofNat (by omega)]; omega⟩
  · rintro ⟨second, third, fourth, rfl, sameFirst, sameSecond, sameThird, sameFourth⟩
    exact ⟨by omega, by rw [(ofNat_eq_iff (by omega)).mpr (show second.toNat = _ by omega),
      (ofNat_eq_iff (by omega)).mpr (show third.toNat = _ by omega),
      (ofNat_eq_iff (by omega)).mpr (show fourth.toNat = _ by omega)]⟩

theorem exists_character (value : Nat)
    (valid : value < 0xD800 ∨ 0xDFFF < value ∧ value < 0x110000) :
    ∃ character : Char, character.toNat = value :=
  ⟨Char.ofNatAux value valid, rfl⟩

end Characters

/-! ### Digits of six bits -/

theorem digits_two {first second value : Nat} :
    (0xC2 ≤ first ∧ first < 0xE0) ∧ (0x80 ≤ second ∧ second ≤ 0xBF) ∧
        (first - 0xC0) * 64 + (second - 0x80) = value ↔
      (0x80 ≤ value ∧ value ≤ 0x7FF) ∧ first = 0xC0 + value / 64 ∧
        second = 0x80 + value % 64 := by
  omega

/-- The bounds of the second byte leave out the numbers of fewer digits and the halves of pairs. -/
theorem digits_three {first second third value : Nat} :
    (0xE0 ≤ first ∧ first < 0xF0) ∧
        ((if first = 0xE0 then 0xA0 else 0x80) ≤ second ∧
          second ≤ if first = 0xED then 0x9F else 0xBF) ∧
        (0x80 ≤ third ∧ third ≤ 0xBF) ∧
        ((first - 0xE0) * 64 + (second - 0x80)) * 64 + (third - 0x80) = value ↔
      (0x800 ≤ value ∧ value ≤ 0xFFFF ∧ (value < 0xD800 ∨ 0xDFFF < value)) ∧
        first = 0xE0 + value / 4096 ∧ second = 0x80 + value / 64 % 64 ∧
        third = 0x80 + value % 64 := by
  split <;> split <;> omega

/-- The bounds of the second byte leave out the numbers of fewer digits and those beyond the last
character. -/
theorem digits_four {first second third fourth value : Nat} :
    (0xF0 ≤ first ∧ first < 0xF5) ∧
        ((if first = 0xF0 then 0x90 else 0x80) ≤ second ∧
          second ≤ if first = 0xF4 then 0x8F else 0xBF) ∧
        (0x80 ≤ third ∧ third ≤ 0xBF) ∧ (0x80 ≤ fourth ∧ fourth ≤ 0xBF) ∧
        (((first - 0xF0) * 64 + (second - 0x80)) * 64 + (third - 0x80)) * 64 +
          (fourth - 0x80) = value ↔
      (0x10000 ≤ value ∧ value < 0x110000) ∧ first = 0xF0 + value / 262144 ∧
        second = 0x80 + value / 4096 % 64 ∧ third = 0x80 + value / 64 % 64 ∧
        fourth = 0x80 + value % 64 := by
  split <;> split <;> omega

/-! ### Characters of several bytes -/

section Several

variable {first : UInt8} {tail : List UInt8} {value : Nat}

theorem exists_character_of_completes {begun : Begun} (begins : begin? first = some begun)
    (completes : begun.Completes tail value) :
    0x80 ≤ value ∧ ∃ character : Char, character.toNat = value ∧
      String.utf8EncodeChar character = first :: tail := by
  rcases Nat.lt_or_ge first.toNat 0xC2 with below | least
  · rw [begin?_eq_none (.inl below)] at begins
    cases begins
  rcases Nat.lt_or_ge first.toNat 0xE0 with two | three
  · rw [begin?_two least two] at begins
    cases begins
    obtain ⟨second, rfl, bounds, reached⟩ := (Begun.completes_last rfl).mp completes
    obtain ⟨range, digits⟩ := digits_two.mp ⟨⟨least, two⟩, bounds, reached⟩
    obtain ⟨character, rfl⟩ := exists_character value (by omega)
    exact ⟨range.1, character, rfl, (encodeChar_two range.1 range.2).mpr ⟨second, rfl, digits⟩⟩
  rcases Nat.lt_or_ge first.toNat 0xF0 with three' | four
  · rw [begin?_three three three'] at begins
    cases begins
    obtain ⟨second, rest, rfl, bounds, completes⟩ :=
      (Begun.completes_more (Nat.le_refl 2)).mp completes
    obtain ⟨third, rfl, boundsLast, reached⟩ := (Begun.completes_last rfl).mp completes
    obtain ⟨range, digits⟩ := digits_three.mp ⟨⟨three, three'⟩, bounds, boundsLast, reached⟩
    obtain ⟨character, rfl⟩ := exists_character value (by omega)
    exact ⟨by omega, character, rfl,
      (encodeChar_three range.1 range.2.1).mpr ⟨second, third, rfl, digits⟩⟩
  rcases Nat.lt_or_ge first.toNat 0xF5 with four' | above
  · rw [begin?_four four four'] at begins
    cases begins
    obtain ⟨second, rest, rfl, bounds, completes⟩ :=
      (Begun.completes_more (Nat.le_succ 2)).mp completes
    obtain ⟨third, rest, rfl, boundsThird, completes⟩ :=
      (Begun.completes_more (Nat.le_refl 2)).mp completes
    obtain ⟨fourth, rfl, boundsLast, reached⟩ := (Begun.completes_last rfl).mp completes
    obtain ⟨range, digits⟩ :=
      digits_four.mp ⟨⟨four, four'⟩, bounds, boundsThird, boundsLast, reached⟩
    obtain ⟨character, rfl⟩ := exists_character value (by omega)
    exact ⟨by omega, character, rfl,
      (encodeChar_four range.1 (by omega)).mpr ⟨second, third, fourth, rfl, digits⟩⟩
  · rw [begin?_eq_none (.inr above)] at begins
    cases begins

theorem exists_begun_of_encodeChar {character : Char} (several : 0x80 ≤ character.toNat)
    (encoded : String.utf8EncodeChar character = first :: tail) :
    ∃ begun, begin? first = some begun ∧ begun.Completes tail character.toNat := by
  have valid : character.toNat < 0xD800 ∨ 0xDFFF < character.toNat ∧ character.toNat < 0x110000 :=
    character.valid
  rcases Nat.lt_or_ge 0x7FF character.toNat with more | two
  · rcases Nat.lt_or_ge 0xFFFF character.toNat with four | three
    · obtain ⟨second, third, fourth, rfl, digits⟩ :=
        (encodeChar_four four (by omega)).mp encoded
      obtain ⟨⟨least, below⟩, bounds, boundsThird, boundsLast, reached⟩ :=
        digits_four.mpr ⟨⟨four, by omega⟩, digits⟩
      refine ⟨_, begin?_four least below, (Begun.completes_more (Nat.le_succ 2)).mpr ?_⟩
      refine ⟨second, _, rfl, bounds, (Begun.completes_more (Nat.le_refl 2)).mpr ?_⟩
      refine ⟨third, _, rfl, boundsThird, (Begun.completes_last rfl).mpr ?_⟩
      exact ⟨fourth, rfl, boundsLast, reached⟩
    · obtain ⟨second, third, rfl, digits⟩ := (encodeChar_three more three).mp encoded
      obtain ⟨⟨least, below⟩, bounds, boundsLast, reached⟩ :=
        digits_three.mpr ⟨⟨more, three, by omega⟩, digits⟩
      refine ⟨_, begin?_three least below, (Begun.completes_more (Nat.le_refl 2)).mpr ?_⟩
      refine ⟨second, _, rfl, bounds, (Begun.completes_last rfl).mpr ?_⟩
      exact ⟨third, rfl, boundsLast, reached⟩
  · obtain ⟨second, rfl, digits⟩ := (encodeChar_two several two).mp encoded
    obtain ⟨⟨least, below⟩, bounds, reached⟩ := digits_two.mpr ⟨⟨several, two⟩, digits⟩
    refine ⟨_, begin?_two least below, (Begun.completes_last rfl).mpr ?_⟩
    exact ⟨second, rfl, bounds, reached⟩

/-- The bytes of a character are a single one below the others, or a first byte and those that
complete what it begins. -/
theorem encodeChar_eq_cons_iff {character : Char} :
    String.utf8EncodeChar character = first :: tail ↔
      (first.toNat < 0x80 ∧ character = Char.ofNat first.toNat ∧ tail = []) ∨
        ∃ begun, begin? first = some begun ∧ begun.Completes tail character.toNat := by
  constructor
  · intro encoded
    rcases Nat.lt_or_ge character.toNat 0x80 with common | several
    · rw [encodeChar_one common] at encoded
      obtain ⟨rfl, rfl⟩ := List.cons.inj encoded
      rw [toNat_ofNat (by omega)]
      exact .inl ⟨common, character.ofNat_toNat.symm, rfl⟩
    · exact .inr (exists_begun_of_encodeChar several encoded)
  · rintro (⟨common, rfl, rfl⟩ | ⟨begun, begins, completes⟩)
    · obtain ⟨character, same⟩ := exists_character first.toNat (by omega)
      rw [← same, character.ofNat_toNat, encodeChar_one (by omega), same]
      exact congrArg (· :: []) ((ofNat_eq_iff (by omega)).mpr rfl)
    · obtain ⟨-, other, same, encoded⟩ := exists_character_of_completes begins completes
      rwa [Char.toNat_inj.mp same] at encoded

end Several

/-! ### Texts -/

/-- The bytes of a text. -/
def encode (text : List Char) : List UInt8 := text.flatMap String.utf8EncodeChar

theorem encode_toList (text : String) : encode text.toList = text.toUTF8.data.toList := by
  rw [String.toUTF8_eq_toByteArray, ← text.ofList_toList, String.toByteArray_ofList,
    String.toList_ofList, List.utf8Encode, List.toList_data_toByteArray, encode]

theorem map_eq_ok_iff {bytes : Except Fault (List Char)} {character : Char} {text : List Char} :
    bytes.map (character :: ·) = .ok text ↔
      ∃ more, bytes = .ok more ∧ text = character :: more := by
  cases bytes with
  | error fault => simp [Except.map]
  | ok more => simp [Except.map, eq_comm]

/-- Behind the beginning of a character stand the bytes that complete it, and then the rest. -/
theorem decodeFrom_begun_eq_ok_iff {position : Nat} {begun : Begun} {bytes : List UInt8}
    {text : List Char} :
    decodeFrom position (some begun) bytes = .ok text ↔
      ∃ tail rest value more, bytes = tail ++ rest ∧ begun.Completes tail value ∧
        decodeFrom (position + tail.length) none rest = .ok more ∧
        text = Char.ofNat value :: more := by
  induction bytes generalizing position begun with
  | nil =>
    rw [decodeFrom]
    refine iff_of_false nofun ?_
    rintro ⟨tail, rest, value, more, split, completes, -⟩
    rw [(List.append_eq_nil_iff.mp split.symm).1] at completes
    exact completes
  | cons byte bytes inductionHypothesis =>
    rw [decodeFrom]
    by_cases bounds : begun.least ≤ byte.toNat ∧ byte.toNat ≤ begun.greatest
    · rw [if_pos bounds]
      by_cases last : (begun.extend byte).missing = 0
      · rw [if_pos last, map_eq_ok_iff]
        constructor
        · rintro ⟨more, decoded, rfl⟩
          exact ⟨[byte], bytes, _, more, rfl, ⟨bounds, (if_pos last).mpr ⟨rfl, rfl⟩⟩, decoded, rfl⟩
        · rintro ⟨tail, rest, value, more, split, completes, decoded, rfl⟩
          cases tail with
          | nil => exact completes.elim
          | cons _ tail =>
            obtain ⟨rfl, rfl⟩ := List.cons.inj split
            obtain ⟨rfl, rfl⟩ := (if_pos last).mp completes.2
            exact ⟨more, decoded, rfl⟩
      · have count (tail : List UInt8) :
            position + (byte :: tail).length = position + 1 + tail.length := by
          rw [List.length_cons, Nat.add_comm tail.length, Nat.add_assoc]
        rw [if_neg last, inductionHypothesis]
        constructor
        · rintro ⟨tail, rest, value, more, rfl, completes, decoded, rfl⟩
          exact ⟨byte :: tail, rest, value, more, rfl, ⟨bounds, (if_neg last).mpr completes⟩,
            (count tail).symm ▸ decoded, rfl⟩
        · rintro ⟨tail, rest, value, more, split, completes, decoded, rfl⟩
          cases tail with
          | nil => exact completes.elim
          | cons _ tail =>
            obtain ⟨rfl, rfl⟩ := List.cons.inj split
            exact ⟨tail, rest, value, more, rfl, (if_neg last).mp completes.2,
              count tail ▸ decoded, rfl⟩
    · rw [if_neg bounds]
      refine iff_of_false nofun ?_
      rintro ⟨tail, rest, value, more, split, completes, -⟩
      cases tail with
      | nil => exact completes
      | cons _ tail =>
        obtain ⟨rfl, rfl⟩ := List.cons.inj split
        exact bounds completes.1

/-- Bytes decode to a text just if they begin with the bytes of its first character, and the rest of
them decodes to its rest. -/
theorem decodeFrom_cons_eq_ok_iff {position : Nat} {byte : UInt8} {bytes : List UInt8}
    {text : List Char} :
    decodeFrom position none (byte :: bytes) = .ok text ↔
      ∃ character tail rest more, String.utf8EncodeChar character = byte :: tail ∧
        bytes = tail ++ rest ∧ decodeFrom (position + 1 + tail.length) none rest = .ok more ∧
        text = character :: more := by
  rw [decodeFrom]
  by_cases common : byte.toNat < 0x80
  · rw [if_pos common, map_eq_ok_iff]
    constructor
    · rintro ⟨more, decoded, rfl⟩
      have encoded := encodeChar_eq_cons_iff.mpr (.inl ⟨common, rfl, rfl⟩)
      exact ⟨_, [], bytes, more, encoded, rfl, decoded, rfl⟩
    · rintro ⟨character, tail, rest, more, encoded, rfl, decoded, rfl⟩
      rcases encodeChar_eq_cons_iff.mp encoded with ⟨-, rfl, rfl⟩ | ⟨begun, begins, -⟩
      · exact ⟨more, decoded, rfl⟩
      · rw [begin?_eq_none (.inl (by omega))] at begins
        cases begins
  · rw [if_neg common]
    cases begins : begin? byte with
    | none =>
      refine iff_of_false nofun ?_
      rintro ⟨character, tail, rest, more, encoded, -⟩
      rcases encodeChar_eq_cons_iff.mp encoded with ⟨below, -⟩ | ⟨begun, same, -⟩
      · exact common below
      · cases begins.symm.trans same
    | some begun =>
      refine decodeFrom_begun_eq_ok_iff.trans ⟨?_, ?_⟩
      · rintro ⟨tail, rest, value, more, rfl, completes, decoded, rfl⟩
        obtain ⟨-, character, rfl, encoded⟩ := exists_character_of_completes begins completes
        rw [character.ofNat_toNat]
        exact ⟨character, tail, rest, more, encoded, rfl, decoded, rfl⟩
      · rintro ⟨character, tail, rest, more, encoded, rfl, decoded, rfl⟩
        rcases encodeChar_eq_cons_iff.mp encoded with ⟨below, -⟩ | ⟨_, same, completes⟩
        · exact absurd below common
        · cases begins.symm.trans same
          exact ⟨tail, rest, _, more, rfl, completes, decoded, by rw [character.ofNat_toNat]⟩

/-- Bytes decode to a text just if they are the bytes of the text. -/
theorem decode_eq_ok_iff {bytes : List UInt8} {text : List Char} :
    decode bytes = .ok text ↔ bytes = encode text := by
  rw [decode]
  generalize 0 = position
  induction text generalizing position bytes with
  | nil =>
    cases bytes with
    | nil => exact iff_of_true rfl rfl
    | cons byte bytes =>
      rw [decodeFrom_cons_eq_ok_iff]
      exact iff_of_false (fun ⟨_, _, _, _, _, _, _, same⟩ => nomatch same) nofun
  | cons character text inductionHypothesis =>
    obtain ⟨first, tail, encoded⟩ :=
      List.exists_cons_of_ne_nil (@String.utf8EncodeChar_ne_nil character)
    rw [encode, List.flatMap_cons, ← encode, encoded, List.cons_append]
    cases bytes with
    | nil => exact iff_of_false nofun nofun
    | cons byte bytes =>
      rw [decodeFrom_cons_eq_ok_iff]
      constructor
      · rintro ⟨_, _, rest, _, encodedFirst, rfl, decoded, ⟨⟩⟩
        obtain ⟨rfl, rfl⟩ := List.cons.inj (encoded.symm.trans encodedFirst)
        rw [(inductionHypothesis _).mp decoded]
      · intro split
        obtain ⟨rfl, rfl⟩ := List.cons.inj split
        exact ⟨character, tail, _, text, encoded, rfl, (inductionHypothesis _).mpr rfl, rfl⟩

/-- Bytes that are those of no text are at fault. -/
theorem exists_fault_of_decode {bytes : List UInt8} (other : ∀ text, bytes ≠ encode text) :
    ∃ fault, decode bytes = .error fault := by
  cases decoded : decode bytes with
  | error fault => exact ⟨fault, rfl⟩
  | ok text => exact absurd (decode_eq_ok_iff.mp decoded) (other text)

end Stencil.Encoding.Utf8
