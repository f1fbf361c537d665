/-
This file proves which texts are colors, and that a color is written back as the full form of the
text that it was read from.

A digit of either case has the same value as its lower-case form, which is the digit that is
written for this value. The forms of three and of six digits stand for eight: digits are doubled
one by one, and full opacity is put behind them. This can be done to digits and to their values
alike, so a form is read as its eight digits would be, each two of them as one byte. Written, a
byte is the same two digits again, on both ways on which a color is written: as its own text, and
as what its format comes to by the placeholders in it.
-/

import Mathlib.Data.List.Forall2
import Stencil.Color
import Stencil.Proofs.PlainFormats

namespace Stencil

/-! ### Digits -/

/-- The hexadecimal digits, those above nine in either case. -/
def hexadecimalDigits : List Char :=
  ['0', '1', '2', '3', '4', '5', '6', '7', '8', '9', 'a', 'b', 'c', 'd', 'e', 'f', 'A', 'B', 'C',
    'D', 'E', 'F']

/-- The number that hexadecimal digits write. -/
def hexadecimalNumber (digits : List Char) : Nat :=
  digits.foldl (fun number digit => number * 16 + (Color.hexValue? digit).getD 0) 0

/-- A digit stands for a number below sixteen, and is, but for its case, how this number is
written. -/
def IsDigitOf (digit : Char) (value : Nat) : Prop :=
  Color.hexValue? digit = some value ∧ value < 16 ∧ Nat.digitChar value = digit.toLower

instance (digit : Char) (value : Nat) : Decidable (IsDigitOf digit value) :=
  inferInstanceAs (Decidable (_ ∧ _))

theorem isDigitOf_digitChar {value : Nat} (small : value < 16) :
    IsDigitOf (Nat.digitChar value) value := by
  have each : ∀ value ∈ List.range 16, IsDigitOf (Nat.digitChar value) value := by decide
  exact each value (List.mem_range.mpr small)

theorem exists_isDigitOf {digit : Char} (member : digit ∈ hexadecimalDigits) :
    ∃ value, IsDigitOf digit value := by
  have each : (hexadecimalDigits.all fun digit =>
      (List.range 16).any fun value => decide (IsDigitOf digit value)) = true := by decide
  obtain ⟨value, -, isDigit⟩ := List.any_eq_true.mp (List.all_eq_true.mp each digit member)
  exact ⟨value, of_decide_eq_true isDigit⟩

/-- Only the hexadecimal digits stand for a number. -/
theorem mem_of_hexValue? {digit : Char} {value : Nat} (found : Color.hexValue? digit = some value) :
    digit ∈ hexadecimalDigits := by
  have codes : ∀ code ∈ List.range' 48 10 ++ List.range' 97 6 ++ List.range' 65 6,
      Char.ofNat code ∈ hexadecimalDigits := by decide
  have inRange : digit.toNat ∈ List.range' 48 10 ++ List.range' 97 6 ++ List.range' 65 6 := by
    simp only [List.mem_append, List.mem_range'_1]
    simp only [Color.hexValue?, Char.isDigit_iff_toNat, Char.le_def,
      UInt32.le_iff_toNat_le] at found
    split at found
    · rename_i bounds
      exact .inl (.inl ⟨bounds.1, Nat.lt_succ_of_le bounds.2⟩)
    split at found
    · rename_i bounds
      exact .inl (.inr ⟨bounds.1, Nat.lt_succ_of_le bounds.2⟩)
    split at found
    · rename_i bounds
      exact .inr ⟨bounds.1, Nat.lt_succ_of_le bounds.2⟩
    · cases found
  have member := codes _ inRange
  rwa [Char.ofNat_toNat] at member

theorem exists_values {digits : List Char} (each : ∀ digit ∈ digits, digit ∈ hexadecimalDigits) :
    ∃ values, List.Forall₂ IsDigitOf digits values := by
  induction digits with
  | nil => exact ⟨[], .nil⟩
  | cons digit rest inductionHypothesis =>
    obtain ⟨first, others⟩ := List.forall_mem_cons.mp each
    obtain ⟨value, isDigit⟩ := exists_isDigitOf first
    obtain ⟨values, areDigits⟩ := inductionHypothesis others
    exact ⟨value :: values, .cons isDigit areDigits⟩

/-- Written, the values of digits are the digits in lower case. -/
theorem written_of_areDigits {digits : List Char} {values : List Nat}
    (areDigits : List.Forall₂ IsDigitOf digits values) :
    (∀ value ∈ values, value < 16) ∧ values.map Nat.digitChar = digits.map Char.toLower := by
  induction areDigits with
  | nil => exact ⟨fun value member => absurd member List.not_mem_nil, rfl⟩
  | cons isDigit _ inductionHypothesis =>
    obtain ⟨-, small, lower⟩ := isDigit
    refine ⟨List.forall_mem_cons.mpr ⟨small, inductionHypothesis.1⟩, ?_⟩
    rw [List.map_cons, List.map_cons, lower, inductionHypothesis.2]

theorem mapM_hexValue? {digits : List Char} {values : List Nat}
    (areDigits : List.Forall₂ IsDigitOf digits values) :
    digits.mapM Color.hexValue? = some values := by
  induction areDigits with
  | nil => rfl
  | cons isDigit _ inductionHypothesis =>
    rw [List.mapM_cons, isDigit.1, inductionHypothesis]
    rfl

theorem forall_mem_of_mapM {digits : List Char} {values : List Nat}
    (read : digits.mapM Color.hexValue? = some values) :
    ∀ digit ∈ digits, digit ∈ hexadecimalDigits := by
  induction digits generalizing values with
  | nil => exact fun digit member => absurd member List.not_mem_nil
  | cons digit rest inductionHypothesis =>
    rw [List.mapM_cons] at read
    obtain ⟨value, first, read⟩ := Option.bind_eq_some_iff.mp read
    obtain ⟨others, behind, -⟩ := Option.bind_eq_some_iff.mp read
    exact List.forall_mem_cons.mpr ⟨mem_of_hexValue? first, inductionHypothesis behind⟩

/-! ### Forms -/

/-- The eight digits, or values of digits, that three, six or eight of them stand for, with the
digit that is put twice for full opacity. -/
def completed {α : Type} (full : α) (digits : List α) : List α :=
  if digits.length = 3 then digits.flatMap (fun digit => [digit, digit]) ++ [full, full]
  else if digits.length = 6 then digits ++ [full, full]
  else digits

theorem map_completed {α β : Type} (change : α → β) (full : α) (digits : List α) :
    (completed full digits).map change = completed (change full) (digits.map change) := by
  simp only [completed, List.length_map, apply_ite (List.map change), List.map_append,
    List.map_flatMap, List.flatMap_map, List.map_cons, List.map_nil]

/-! ### Bytes -/

theorem hexDigits_two {value : Nat} (small : value < 256) :
    Text.hexDigits 2 value = [value / 16, value % 16].map Nat.digitChar := by
  rw [Text.hexDigits]
  by_cases one : value < 16
  · rw [Nat.toDigits_of_lt_base one, Nat.div_eq_of_lt one, Nat.mod_eq_of_lt one]
    rfl
  · rw [Nat.toDigits_of_base_le (by decide) (Nat.le_of_not_lt one),
      Nat.toDigits_of_lt_base (by omega)]
    rfl

namespace Color

theorem toNat_ofDigits {high low : Nat} (highSmall : high < 16) (lowSmall : low < 16) :
    (ofDigits high low).toNat = high * 16 + low := by
  have small : high * 16 + low < 256 := by omega
  rw [ofDigits, UInt8.toNat_ofNat', Nat.mod_eq_of_lt small]

theorem ofDigits_halves (byte : UInt8) : ofDigits (byte.toNat / 16) (byte.toNat % 16) = byte := by
  rw [ofDigits, Nat.div_add_mod']
  exact UInt8.ofNat_toNat

/-- The values of the digits in which a color is written. -/
def digitValues (color : Color) : List Nat :=
  Channel.all.flatMap fun channel =>
    [(color.channel channel).toNat / 16, (color.channel channel).toNat % 16]

theorem lt_of_mem_digitValues {color : Color} {value : Nat} (member : value ∈ color.digitValues) :
    value < 16 := by
  obtain ⟨channel, -, member⟩ := List.mem_flatMap.mp member
  have byte := (color.channel channel).toNat_lt
  rcases List.mem_cons.mp member with rfl | last
  · omega
  · rw [List.mem_singleton.mp last]
    exact Nat.mod_lt _ (by decide)

/-- A color is written in the digits of its values. -/
theorem toString_eq (color : Color) :
    color.toString = String.ofList ('#' :: color.digitValues.map Nat.digitChar) := by
  have digits (byte : UInt8) :
      channelDigits byte = [byte.toNat / 16, byte.toNat % 16].map Nat.digitChar :=
    hexDigits_two byte.toNat_lt
  rw [Color.toString, digitValues, List.map_flatMap]
  simp only [digits]

theorem ofValues?_digitValues (color : Color) : ofValues? color.digitValues = some color := by
  simp only [digitValues, Channel.all, List.flatMap_cons, List.flatMap_nil, List.cons_append,
    List.nil_append, ofValues?, ofDigits_halves, channel]

/-- Two values for each channel are those of a color. -/
theorem exists_color_of_eight {values : List Nat} (eight : values.length = 8)
    (small : ∀ value ∈ values, value < 16) :
    ∃ color, ofValues? values = some color ∧ color.digitValues = values := by
  match values, eight with
  | [r, r', g, g', b, b', a, a'], _ =>
    have pair {high low : Nat} (highIn : high ∈ [r, r', g, g', b, b', a, a'])
        (lowIn : low ∈ [r, r', g, g', b, b', a, a']) :
        [(ofDigits high low).toNat / 16, (ofDigits high low).toNat % 16] = [high, low] := by
      have lowSmall := small low lowIn
      rw [toNat_ofDigits (small high highIn) lowSmall, Nat.add_comm,
        Nat.add_mul_div_right _ _ (by decide), Nat.add_mul_mod_self_right,
        Nat.div_eq_of_lt lowSmall, Nat.mod_eq_of_lt lowSmall, Nat.zero_add]
    refine ⟨_, rfl, ?_⟩
    simp only [digitValues, Channel.all, List.flatMap_cons, List.flatMap_nil, channel]
    rw [pair (by simp) (by simp), pair (by simp) (by simp), pair (by simp) (by simp),
      pair (by simp) (by simp)]
    rfl

theorem ofValues?_completed {values : List Nat}
    (form : values.length = 3 ∨ values.length = 6 ∨ values.length = 8) :
    ofValues? (completed 15 values) = ofValues? values := by
  obtain three | six | eight := form
  · match values, three with
    | [r, g, b], _ => rfl
  · match values, six with
    | [r, r', g, g', b, b'], _ => rfl
  · match values, eight with
    | [r, r', g, g', b, b', a, a'], _ => rfl

theorem length_completed {α : Type} (full : α) {digits : List α}
    (form : digits.length = 3 ∨ digits.length = 6 ∨ digits.length = 8) :
    (completed full digits).length = 8 := by
  obtain three | six | eight := form
  · rw [completed, if_pos three]
    simp [three]
  · rw [completed, if_neg (by omega), if_pos six]
    simp [six]
  · rw [completed, if_neg (by omega), if_neg (by omega), eight]

theorem forall_mem_completed {α : Type} {holds : α → Prop} {full : α} {digits : List α}
    (isFull : holds full) (each : ∀ digit ∈ digits, holds digit) :
    ∀ digit ∈ completed full digits, holds digit := by
  intro digit member
  unfold completed at member
  split at member
  · simp only [List.mem_append, List.mem_flatMap, List.mem_cons, List.not_mem_nil, or_false,
      or_self] at member
    rcases member with ⟨given, member, rfl⟩ | rfl
    · exact each _ member
    · exact isFull
  split at member
  · simp only [List.mem_append, List.mem_cons, List.not_mem_nil, or_false, or_self] at member
    rcases member with member | rfl
    · exact each _ member
    · exact isFull
  · exact each _ member

/-- The values of three, six or eight digits are those of a color, once they are completed. -/
theorem exists_color {values : List Nat}
    (form : values.length = 3 ∨ values.length = 6 ∨ values.length = 8)
    (small : ∀ value ∈ values, value < 16) :
    ∃ color, ofValues? values = some color ∧ color.digitValues = completed 15 values := by
  rw [← ofValues?_completed form]
  exact exists_color_of_eight (length_completed 15 form)
    (forall_mem_completed (by decide) small)

/-! ### Reading -/

theorem ofHex_of_ofValues? {text : String} {digits : List Char} {values : List Nat} {color : Color}
    (marked : text.toList = '#' :: digits)
    (form : digits.length = 3 ∨ digits.length = 6 ∨ digits.length = 8)
    (areDigits : List.Forall₂ IsDigitOf digits values) (made : ofValues? values = some color) :
    ofHex text = .ok color := by
  simp only [ofHex, marked, ne_eq, not_true_eq_false, if_false, form, mapM_hexValue? areDigits,
    made]

/-- A number sign with three, six or eight hexadecimal digits behind it is read as a color, which
is written in the completed digits. -/
theorem exists_ofHex {text : String} {digits : List Char} (marked : text.toList = '#' :: digits)
    (form : digits.length = 3 ∨ digits.length = 6 ∨ digits.length = 8)
    (each : ∀ digit ∈ digits, digit ∈ hexadecimalDigits) :
    ∃ color, ofHex text = .ok color ∧
      color.digitValues.map Nat.digitChar = completed 'f' (digits.map Char.toLower) := by
  obtain ⟨values, areDigits⟩ := exists_values each
  obtain ⟨small, written⟩ := written_of_areDigits areDigits
  obtain ⟨color, made, completes⟩ := exists_color (areDigits.length_eq ▸ form) small
  refine ⟨color, ofHex_of_ofValues? marked form areDigits made, ?_⟩
  rw [completes, map_completed, written]
  rfl

/-- What is read as a color is a number sign with three, six or eight hexadecimal digits. -/
theorem form_of_ofHex {text : String} {color : Color} (read : ofHex text = .ok color) :
    ∃ digits, text.toList = '#' :: digits ∧
      (digits.length = 3 ∨ digits.length = 6 ∨ digits.length = 8) ∧
      ∀ digit ∈ digits, digit ∈ hexadecimalDigits := by
  unfold ofHex at read
  split at read
  · cases read
  rename_i mark digits marked
  split at read
  · cases read
  rename_i sign
  split at read
  · cases read
  rename_i form
  split at read
  · cases read
  rename_i values converted
  exact ⟨digits, (not_not.mp sign) ▸ marked, not_not.mp form, forall_mem_of_mapM converted⟩

/-- A color is read back from its own text. -/
theorem ofHex_toString (color : Color) : ofHex color.toString = .ok color := by
  have marked : color.toString.toList = '#' :: color.digitValues.map Nat.digitChar := by
    rw [toString_eq, String.toList_ofList]
  have eight : (color.digitValues.map Nat.digitChar).length = 8 := rfl
  refine ofHex_of_ofValues? marked (.inr (.inr eight)) ?_ color.ofValues?_digitValues
  rw [List.forall₂_map_left_iff, List.forall₂_same]
  exact fun value member => isDigitOf_digitChar (lt_of_mem_digitValues member)

/-! ### The number of a color -/

/-- The byte of a channel in a number of four bytes, of which red is the first. -/
def byteOf (number : Nat) : Channel → Nat
  | .red => number >>> 24 &&& 0xFF
  | .green => number >>> 16 &&& 0xFF
  | .blue => number >>> 8 &&& 0xFF
  | .opacity => number &&& 0xFF

theorem hexadecimalNumber_digitValues (color : Color) :
    hexadecimalNumber (color.digitValues.map Nat.digitChar) =
      ((color.red.toNat * 256 + color.green.toNat) * 256 + color.blue.toNat) * 256 +
        color.opacity.toNat := by
  have value (byte : UInt8) :
      (hexValue? (Nat.digitChar (byte.toNat / 16))).getD 0 = byte.toNat / 16 ∧
        (hexValue? (Nat.digitChar (byte.toNat % 16))).getD 0 = byte.toNat % 16 := by
    have small := byte.toNat_lt
    rw [(isDigitOf_digitChar (by omega)).1, (isDigitOf_digitChar (by omega)).1]
    exact ⟨rfl, rfl⟩
  simp only [hexadecimalNumber, digitValues, Channel.all, List.flatMap_cons, List.flatMap_nil,
    List.cons_append, List.nil_append, List.map_cons, List.map_nil, List.foldl_cons,
    List.foldl_nil, channel, value]
  omega

/-- The channels are the bytes of the number that the digits of a color write. -/
theorem channel_eq_byteOf (color : Color) (channel : Channel) :
    (color.channel channel).toNat =
      byteOf (hexadecimalNumber (color.digitValues.map Nat.digitChar)) channel := by
  have red := color.red.toNat_lt
  have green := color.green.toNat_lt
  have blue := color.blue.toNat_lt
  have opacity := color.opacity.toNat_lt
  have low (number : Nat) : number &&& 0xFF = number % 256 :=
    Nat.and_two_pow_sub_one_eq_mod number 8
  rw [hexadecimalNumber_digitValues]
  cases channel <;>
    simp only [byteOf, low, Nat.shiftRight_eq_div_pow, Color.channel] <;> omega

/-! ### The format of a color -/

/-- The field that stands for a channel in two digits. -/
def digitsField (channel : Channel) : Piece := .field (String.ofList [channel.letter, 'x'])

/-- The pieces of the format of a color: its number sign, and the digits of each channel. -/
def formatPieces : List Piece := .literal "#" :: Channel.all.map digitsField

theorem spelling_formatPieces : Piece.spelling formatPieces = defaultFormat.toList := by decide

theorem exists_channel {key : String} (member : .field key ∈ formatPieces) :
    ∃ channel : Channel, key = String.ofList [channel.letter, 'x'] := by
  rcases List.mem_cons.mp member with literal | field
  · cases literal
  · obtain ⟨channel, -, same⟩ := List.mem_map.mp field
    exact ⟨channel, (Piece.field.inj same).symm⟩

theorem placeholder?_digits (color : Color) (channel : Channel) :
    color.toFormattable.placeholder? (String.ofList [channel.letter, 'x']) =
      some (.text (String.ofList (channelDigits (color.channel channel)))) := by
  show color.placeholder? _ = _
  rw [placeholder?, String.toList_ofList]
  cases channel <;> rfl

theorem plainText_map_digitsField (color : Color) (channels : List Channel) :
    color.toFormattable.plainText (channels.map digitsField) =
      .ok (String.ofList (channels.flatMap fun channel =>
        channelDigits (color.channel channel))) := by
  induction channels with
  | nil => rfl
  | cons channel rest inductionHypothesis =>
    rw [List.map_cons, digitsField, Formattable.plainText, placeholder?_digits]
    simp only [inductionHypothesis, List.flatMap_cons, String.ofList_append]
    rfl

theorem plainText_formatPieces (color : Color) :
    color.toFormattable.plainText formatPieces = .ok color.toString := by
  rw [formatPieces, Formattable.plainText, plainText_map_digitsField, Color.toString,
    String.ofList_cons]
  rfl

/-- What a color comes to in its own format is its text. -/
theorem renderAs_none [Memory] (color : Color) :
    color.toFormattable.renderAs none = .ok color.toString := by
  have plain : ∀ key, .field key ∈ formatPieces → IsPlainKey key := by
    intro key member
    obtain ⟨channel, rfl⟩ := exists_channel member
    cases channel <;> decide
  have short : ∀ key number, .field key ∈ formatPieces →
      color.toFormattable.placeholder? key = some (.integer number) →
      (Number.decimalDigits number.natAbs).length ≤ Number.maxDigits := by
    intro key number member found
    obtain ⟨channel, rfl⟩ := exists_channel member
    rw [placeholder?_digits] at found
    cases found
  have start : Numbering.start.TakesNames := rfl
  obtain ⟨text, last, comes, expanded⟩ | ⟨key, unknown, -⟩ :=
    @Formattable.expand_spelling _ color.toFormattable 1 _ formatPieces start plain short
  · obtain rfl : color.toString = text := by
      rw [plainText_formatPieces] at comes
      injection comes
    have written := expanded []
    rw [List.append_nil, spelling_formatPieces] at written
    have whole : color.toFormattable.expand Formattable.maxLevels defaultFormat.toList .start =
        .ok (color.toString.toList, last) := by
      rw [Formattable.maxLevels, written]
      simp [Formattable.expand, Formattable.expandWith_nil, Formattable.Expanded.behind, Except.map]
    show color.toFormattable.render defaultFormat = _
    rw [Formattable.render, Formattable.format, whole]
    exact congrArg Except.ok String.ofList_toList
  · rw [plainText_formatPieces] at unknown
    cases unknown

/-! ### Making colors -/

theorem exists_of_bind_eq_ok {ε α β : Type} {first : Except ε α} {rest : α → Except ε β} {value : β}
    (finished : (first >>= rest) = .ok value) :
    ∃ between, first = .ok between ∧ rest between = .ok value := by
  cases first with
  | error failure => cases finished
  | ok between => exact ⟨between, rfl, finished⟩

/-- A number is the value of a channel exactly where a byte is worth it. -/
theorem check_eq_ok_iff {channel : Channel} {value : Int} {byte : UInt8} :
    ofChannels.check channel value = .ok byte ↔ byte.toNat = value := by
  have bound := byte.toNat_lt
  unfold ofChannels.check
  split
  · rename_i range
    rw [Except.ok.injEq, ← UInt8.toNat_inj, UInt8.toNat_ofNat',
      Nat.mod_eq_of_lt (by omega)]
    omega
  · rename_i outside
    refine ⟨nofun, fun same => ?_⟩
    omega

theorem ofChannels_eq_ok_iff {red green blue opacity : Int} {color : Color} :
    ofChannels red green blue opacity = .ok color ↔
      color.red.toNat = red ∧ color.green.toNat = green ∧ color.blue.toNat = blue ∧
        color.opacity.toNat = opacity := by
  rw [ofChannels]
  constructor
  · intro made
    obtain ⟨redByte, isRed, made⟩ := exists_of_bind_eq_ok made
    obtain ⟨greenByte, isGreen, made⟩ := exists_of_bind_eq_ok made
    obtain ⟨blueByte, isBlue, made⟩ := exists_of_bind_eq_ok made
    obtain ⟨opacityByte, isOpacity, made⟩ := exists_of_bind_eq_ok made
    cases made
    exact ⟨check_eq_ok_iff.mp isRed, check_eq_ok_iff.mp isGreen, check_eq_ok_iff.mp isBlue,
      check_eq_ok_iff.mp isOpacity⟩
  · rintro ⟨rfl, rfl, rfl, rfl⟩
    rw [check_eq_ok_iff.mpr rfl, check_eq_ok_iff.mpr rfl, check_eq_ok_iff.mpr rfl,
      check_eq_ok_iff.mpr rfl]
    rfl

theorem exists_byte_iff {value : Int} :
    (∃ byte : UInt8, (byte.toNat : Int) = value) ↔ 0 ≤ value ∧ value ≤ 255 := by
  constructor
  · rintro ⟨byte, rfl⟩
    have bound := byte.toNat_lt
    omega
  · intro range
    refine ⟨UInt8.ofNat value.toNat, ?_⟩
    rw [UInt8.toNat_ofNat', Nat.mod_eq_of_lt (by omega)]
    omega

theorem exists_ofChannels_iff {red green blue opacity : Int} :
    (∃ color, ofChannels red green blue opacity = .ok color) ↔
      (∃ byte : UInt8, (byte.toNat : Int) = red) ∧ (∃ byte : UInt8, (byte.toNat : Int) = green) ∧
        (∃ byte : UInt8, (byte.toNat : Int) = blue) ∧
        ∃ byte : UInt8, (byte.toNat : Int) = opacity := by
  constructor
  · rintro ⟨color, made⟩
    obtain ⟨red, green, blue, opacity⟩ := ofChannels_eq_ok_iff.mp made
    exact ⟨⟨_, red⟩, ⟨_, green⟩, ⟨_, blue⟩, ⟨_, opacity⟩⟩
  · rintro ⟨⟨redByte, isRed⟩, ⟨greenByte, isGreen⟩, ⟨blueByte, isBlue⟩, ⟨opacityByte, isOpacity⟩⟩
    exact ⟨⟨redByte, greenByte, blueByte, opacityByte⟩,
      ofChannels_eq_ok_iff.mpr ⟨isRed, isGreen, isBlue, isOpacity⟩⟩

/-! ### Texts and colors -/

/-- A text is read as a color exactly where it is a number sign with three, six or eight
hexadecimal digits of either case behind it. The color is then written, as its own text and in its
own format, in the digits in lower case, those of three doubled one by one, with two more for full
opacity where there were three or six; and its channels are the bytes of the number that these
digits write. Colors are made from any four numbers from 0 to 255 and from no others, and each of
them is read back from its own text, which is also what its format comes to. -/
theorem text_forms_exact [Memory] :
    (∀ text : String, (∃ color, ofHex text = .ok color) ↔
      ∃ digits, text.toList = '#' :: digits ∧
        (digits.length = 3 ∨ digits.length = 6 ∨ digits.length = 8) ∧
        ∀ digit ∈ digits, digit ∈ hexadecimalDigits) ∧
    (∀ text digits color, text.toList = '#' :: digits → ofHex text = .ok color →
      let full := completed 'f' (digits.map Char.toLower)
      color.toString = String.ofList ('#' :: full) ∧
        color.toFormattable.renderAs none = .ok (String.ofList ('#' :: full)) ∧
        ∀ channel, (color.channel channel).toNat = byteOf (hexadecimalNumber full) channel) ∧
    (∀ red green blue opacity : Int, (∃ color, ofChannels red green blue opacity = .ok color) ↔
      ∀ value ∈ [red, green, blue, opacity], 0 ≤ value ∧ value ≤ 255) ∧
    ∀ color : Color,
      ofChannels color.red.toNat color.green.toNat color.blue.toNat color.opacity.toNat =
          .ok color ∧
        (∀ channel, (color.channel channel).toNat ≤ 255) ∧
        ofHex color.toString = .ok color ∧
        color.toFormattable.renderAs none = .ok color.toString := by
  refine ⟨fun text => ⟨fun ⟨color, read⟩ => form_of_ofHex read, ?_⟩, ?_, ?_, fun color => ?_⟩
  · rintro ⟨digits, marked, form, each⟩
    obtain ⟨color, read, -⟩ := exists_ofHex marked form each
    exact ⟨color, read⟩
  · intro text digits color marked read full
    obtain ⟨others, markedSo, form, each⟩ := form_of_ofHex read
    obtain rfl : digits = others := (List.cons.inj (marked.symm.trans markedSo)).2
    obtain ⟨other, readSo, written⟩ := exists_ofHex marked form each
    obtain rfl : color = other := by rw [readSo] at read; injection read with same; exact same.symm
    rw [renderAs_none, toString_eq, written]
    refine ⟨rfl, rfl, fun channel => ?_⟩
    rw [channel_eq_byteOf, written]
  · intro red green blue opacity
    rw [exists_ofChannels_iff]
    simp only [← exists_byte_iff, List.forall_mem_cons, List.not_mem_nil, false_imp_iff,
      implies_true, and_true]
  · exact ⟨ofChannels_eq_ok_iff.mpr ⟨rfl, rfl, rfl, rfl⟩,
      fun channel => Nat.le_of_lt_succ (color.channel channel).toNat_lt, ofHex_toString color,
      renderAs_none color⟩

open Memory

/-- Three digits of both cases are doubled, and with a line feed behind them they are no color. -/
theorem text_forms_exact_three :
    let color : Color := { red := 0xAA, green := 0xBB, blue := 0x00 }
    "#aB0".toList = ['#', 'a', 'B', '0'] ∧ ofHex "#aB0" = .ok color ∧
      color.toString = "#aabb00ff" ∧ color.toFormattable.renderAs none = .ok "#aabb00ff" ∧
      (color.channel .green).toNat = 0xBB ∧ ¬ ∃ other, ofHex "#aB0\n" = .ok other := by
  intro color
  have marked : "#aB0".toList = ['#', 'a', 'B', '0'] := by decide
  have read : ofHex "#aB0" = .ok color := by with_unfolding_all rfl
  have written : String.ofList ('#' :: completed 'f' (['a', 'B', '0'].map Char.toLower)) =
      "#aabb00ff" := by decide
  obtain ⟨shown, comes, bytes⟩ := text_forms_exact.2.1 _ _ _ marked read
  rw [written] at shown comes
  refine ⟨marked, read, shown, comes, bytes .green, fun accepted => ?_⟩
  obtain ⟨digits, behind, -, each⟩ := (text_forms_exact.1 "#aB0\n").mp accepted
  obtain rfl : ['a', 'B', '0', '\n'] = digits := by
    have marked : "#aB0\n".toList = ['#', 'a', 'B', '0', '\n'] := by decide
    exact (List.cons.inj (marked.symm.trans behind)).2
  exact absurd (each '\n' (by decide)) (by decide)

end Color

end Stencil
