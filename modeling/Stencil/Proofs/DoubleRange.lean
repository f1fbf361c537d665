/-
This file proves which whole numbers the double format has room for.

A whole number with as many binary digits as the greatest finite number, or fewer, is rounded
within the format unless it is so near to the next power of two that it rounds up to it. There is
no number of the format at that power; its neighbour below is odd, so of the two the half way
between them goes up as well. From that half way on a whole number has no double.
-/

import Stencil.Number.Binary64

namespace Stencil.Number

/-! ### Powers of two -/

theorem powerOfTwo_add (first second : Nat) :
    powerOfTwo (first + second) = powerOfTwo first * powerOfTwo second :=
  Nat.pow_add 2 first second

theorem powerOfTwo_le {first second : Nat} (le : first ≤ second) :
    powerOfTwo first ≤ powerOfTwo second :=
  Nat.pow_le_pow_right (by decide) le

theorem powerOfTwo_le_iff {value exponent : Nat} (positive : value ≠ 0) :
    powerOfTwo exponent ≤ value ↔ exponent ≤ value.log2 :=
  (Nat.le_log2 positive).symm

/-! ### Rounding up at the end of a grid -/

/-- Below the point behind an odd one, a ratio to an even denominator is rounded to that point from
the half way on. -/
theorem roundHalfEven_eq_succ_iff {numerator half bound : Nat} (odd : bound % 2 = 1)
    (below : numerator < (bound + 1) * (2 * half)) :
    roundHalfEven numerator (2 * half) = bound + 1 ↔ bound * (2 * half) + half ≤ numerator := by
  have positive : 0 < 2 * half := by
    refine Nat.pos_of_ne_zero fun zero => ?_
    rw [zero, Nat.mul_zero] at below
    exact Nat.not_lt_zero _ below
  have parts := Nat.div_add_mod' numerator (2 * half)
  have remainder := Nat.mod_lt numerator positive
  have atMost : numerator / (2 * half) ≤ bound :=
    Nat.le_of_lt_succ ((Nat.div_lt_iff_lt_mul positive).mpr below)
  -- The last point before the bound is the only one that can go up to it.
  by_cases last : numerator / (2 * half) = bound
  · rw [last] at parts
    simp only [roundHalfEven, last]
    split
    · omega
    · split <;> omega
  · have before : numerator / (2 * half) + 1 ≤ bound := by omega
    have short : numerator < bound * (2 * half) :=
      Nat.lt_of_lt_of_le (Nat.lt_mul_of_div_lt (Nat.lt_succ_self _) positive)
        (Nat.mul_le_mul_right _ before)
    have notUp : roundHalfEven numerator (2 * half) ≠ bound + 1 := by
      simp only [roundHalfEven]
      split
      · omega
      · split <;> omega
    exact ⟨fun up => absurd up notUp, fun far => by omega⟩

/-! ### Whole numbers -/

theorem ratioLog2_one {value : Nat} (positive : value ≠ 0) : ratioLog2 value 1 = value.log2 := by
  have estimate : (value.log2 : Int) - (1 : Nat).log2 = value.log2 := by
    rw [show (1 : Nat).log2 = 0 by decide]
    omega
  have reached : ¬ value < powerOfTwo value.log2 :=
    Nat.not_lt.mpr ((powerOfTwo_le_iff positive).mpr (Nat.le_refl _))
  simp [ratioLog2, estimate, reached]

namespace Binary64

/-- The least whole number that has no double: the half way from the greatest finite number to the
power of two behind it. -/
def wholeLimit : Nat := powerOfTwo 1024 - powerOfTwo 970

/-- The last finite numbers stand on a grid of this width. -/
theorem powerOfTwo_971 : powerOfTwo 971 = 2 * powerOfTwo 970 := by
  rw [show 971 = 1 + 970 from rfl, powerOfTwo_add, show powerOfTwo 1 = 2 from rfl]

theorem powerOfTwo_1024 :
    powerOfTwo 1024 = (powerOfTwo precision - 1 + 1) * (2 * powerOfTwo 970) := by
  rw [Nat.sub_add_cancel (powerOfTwo_pos precision), ← powerOfTwo_971,
    show 1024 = precision + 971 from rfl, powerOfTwo_add]

theorem wholeLimit_eq :
    wholeLimit = (powerOfTwo precision - 1) * (2 * powerOfTwo 970) + powerOfTwo 970 := by
  rw [wholeLimit, powerOfTwo_1024, Nat.succ_mul]
  omega

/-- The exponent of a whole number, rounded to the format, before a carry. -/
theorem exponent_eq {value : Nat} (positive : value ≠ 0) :
    max (ratioLog2 value 1 - 52) minExponent = value.log2 - 52 := by
  rw [ratioLog2_one positive, minExponent]
  omega

/-- The significand of a whole number, rounded to the format, before a carry. -/
def wholeSignificand (value : Nat) : Nat :=
  if 52 ≤ value.log2 then roundHalfEven value (powerOfTwo (value.log2 - 52))
  else roundHalfEven (value * powerOfTwo (52 - value.log2)) 1

/-- A whole number is infinite in the format if its exponent is too large, which a carry may have
made larger by one. -/
theorem infinite_iff_maxExponent_lt {value : Nat} (positive : value ≠ 0) (negative : Bool) :
    (∃ sign, ofRatio negative value 1 = .infinite sign) ↔
      maxExponent < (if wholeSignificand value = powerOfTwo precision then
        (value.log2 : Int) - 52 + 1 else value.log2 - 52) := by
  have significand :
      (if 0 ≤ (value.log2 : Int) - 52 then
          roundHalfEven value (1 * powerOfTwo ((value.log2 : Int) - 52).toNat)
        else roundHalfEven (value * powerOfTwo (-((value.log2 : Int) - 52)).toNat) 1) =
      wholeSignificand value := by
    by_cases large : 52 ≤ value.log2
    · rw [wholeSignificand, if_pos large, if_pos (by omega), Nat.one_mul]
      congr 2
      omega
    · rw [wholeSignificand, if_neg large, if_neg (by omega)]
      congr 3
      omega
  simp only [ofRatio, if_neg positive, exponent_eq positive, significand]
  by_cases carry : wholeSignificand value = powerOfTwo precision
  · simp only [if_pos carry]
    split <;> simp [*]
  · simp only [if_neg carry]
    split <;> simp [*]

/-- A whole number with fewer binary digits than the greatest finite number has room for a
carry, and one with more is too large with or without it. -/
theorem infinite_iff_wholeLimit_le (negative : Bool) {value : Nat} :
    (∃ sign, ofRatio negative value 1 = .infinite sign) ↔ wholeLimit ≤ value := by
  by_cases zero : value = 0
  · subst zero
    refine iff_of_false (by rintro ⟨_, ⟨⟩⟩) (Nat.not_le.mpr ?_)
    rw [wholeLimit_eq]
    exact Nat.add_pos_right _ (powerOfTwo_pos _)
  rw [infinite_iff_maxExponent_lt zero, maxExponent]
  rcases Nat.lt_trichotomy value.log2 1023 with fewer | same | more
  · have below : value < powerOfTwo 1023 := by
      rw [← Nat.not_le, powerOfTwo_le_iff zero]
      omega
    have room : powerOfTwo 1023 ≤ wholeLimit := by
      have double : powerOfTwo 1024 = 2 * powerOfTwo 1023 := by
        rw [show 1024 = 1 + 1023 from rfl, powerOfTwo_add, show powerOfTwo 1 = 2 from rfl]
      have half : powerOfTwo 970 ≤ powerOfTwo 1023 := powerOfTwo_le (by decide)
      rw [wholeLimit]
      omega
    refine iff_of_false ?_ (Nat.not_le.mpr (Nat.lt_of_lt_of_le below room))
    split <;> omega
  · have below : value < (powerOfTwo precision - 1 + 1) * (2 * powerOfTwo 970) := by
      rw [← powerOfTwo_1024, ← Nat.not_le, powerOfTwo_le_iff zero]
      omega
    have carry : wholeSignificand value = powerOfTwo precision ↔ wholeLimit ≤ value := by
      rw [wholeSignificand, if_pos (by omega), same, powerOfTwo_971, wholeLimit_eq,
        ← roundHalfEven_eq_succ_iff (by decide) below,
        Nat.sub_add_cancel (powerOfTwo_pos precision)]
    rw [← carry, same]
    by_cases up : wholeSignificand value = powerOfTwo precision
    · simp [up]
    · simp [up]
  · have above : powerOfTwo 1024 ≤ value := (powerOfTwo_le_iff zero).mpr more
    refine iff_of_true ?_ (Nat.le_trans (Nat.sub_le _ _) above)
    split <;> omega

theorem ofRatio_ne_nan (negative : Bool) (numerator denominator : Nat) :
    ofRatio negative numerator denominator ≠ .nan := by
  grind [ofRatio, zero]

/-- The whole numbers without a double are those from the limit on, on either side of zero. -/
theorem ofInt?_eq_none_iff (value : Int) :
    ofInt? value = none ↔ wholeLimit ≤ value.natAbs := by
  rw [← infinite_iff_wholeLimit_le (decide (value < 0)), ofInt?]
  cases rounded : ofRatio (decide (value < 0)) value.natAbs 1 with
  | nan => exact absurd rounded (ofRatio_ne_nan _ _ _)
  | infinite sign => simp
  | finite => simp

end Binary64

end Stencil.Number
