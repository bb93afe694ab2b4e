import Mathlib.Algebra.Group.Nat.Defs
import RuleEngine.Numeric.Binary64

/-!
# Rounding of integers

A greater integer is never rounded to a smaller number.  Two integers with the same leading bit are
scaled alike, and rounding a quotient keeps the order.  If the leading bits differ, a power of two
lies between the integers, and between what they are rounded to: a significand reaches from one power
of two to the next, both included.

The integers are those of 64 bits, so their roundings are finite, and they stand among all numbers
where their magnitudes say.
-/

namespace RuleEngine
namespace Binary64

/-! ## Significands -/

theorem roundShift_ge (n shift : Nat) : n / 2 ^ shift ≤ roundShift n shift := by
  simp only [roundShift, Nat.pow_eq]
  split <;> omega

theorem roundShift_le (n shift : Nat) : roundShift n shift ≤ n / 2 ^ shift + 1 := by
  simp only [roundShift, Nat.pow_eq]
  split <;> omega

theorem roundShift_mono {m n : Nat} (h : m ≤ n) (shift : Nat) :
    roundShift m shift ≤ roundShift n shift := by
  have quotients : m / 2 ^ shift ≤ n / 2 ^ shift := Nat.div_le_div_right h
  rcases Nat.lt_or_eq_of_le quotients with less | same
  -- one more than the smaller quotient is not above the greater one
  · calc
      roundShift m shift ≤ m / 2 ^ shift + 1 := roundShift_le m shift
      _ ≤ n / 2 ^ shift := less
      _ ≤ roundShift n shift := roundShift_ge n shift
  -- of equal quotients the remainders decide, and these are ordered as the dividends
  · have whole_m := Nat.div_add_mod m (2 ^ shift)
    have whole_n := Nat.div_add_mod n (2 ^ shift)
    have remainders : m % 2 ^ shift ≤ n % 2 ^ shift := by
      rw [same] at whole_m
      omega
    simp only [roundShift, Nat.pow_eq, same]
    split <;> split <;> omega

/-- The significand of the number nearest to an integer, with its leading bit. -/
def significand (n : Nat) : Nat :=
  if n.log2 ≤ fractionWidth then
    n * 2 ^ (fractionWidth - n.log2)
  else
    roundShift n (n.log2 - fractionWidth)

theorem magnitudeOfNat_of_ne_zero {n : Nat} (h : n ≠ 0) :
    magnitudeOfNat n = (n.log2 + 1022) * exponentUnit + significand n := by
  simp only [magnitudeOfNat, if_neg h, significand, Nat.pow_eq]

theorem exponentUnit_eq : exponentUnit = 2 ^ fractionWidth := rfl

theorem exponentUnit_le_significand {n : Nat} (h : n ≠ 0) : exponentUnit ≤ significand n := by
  have lead : 2 ^ n.log2 ≤ n := Nat.log2_self_le h
  rw [exponentUnit_eq, significand]
  split
  · rename_i short
    calc
      2 ^ fractionWidth = 2 ^ n.log2 * 2 ^ (fractionWidth - n.log2) := by
        rw [← Nat.pow_add, Nat.add_sub_cancel' short]
      _ ≤ n * 2 ^ (fractionWidth - n.log2) := Nat.mul_le_mul_right _ lead
  · rename_i long
    have width : fractionWidth + (n.log2 - fractionWidth) = n.log2 :=
      Nat.add_sub_cancel' (Nat.le_of_not_le long)
    calc
      2 ^ fractionWidth ≤ n / 2 ^ (n.log2 - fractionWidth) := by
        rw [Nat.le_div_iff_mul_le (Nat.two_pow_pos _), ← Nat.pow_add, width]
        exact lead
      _ ≤ roundShift n (n.log2 - fractionWidth) := roundShift_ge _ _

theorem significand_le (n : Nat) : significand n ≤ 2 * exponentUnit := by
  have above : n < 2 ^ (n.log2 + 1) := Nat.lt_log2_self
  have twice : 2 * exponentUnit = 2 ^ (fractionWidth + 1) := rfl
  rw [twice, significand]
  split
  · rename_i short
    have width : n.log2 + 1 + (fractionWidth - n.log2) = fractionWidth + 1 := by omega
    calc
      n * 2 ^ (fractionWidth - n.log2)
          ≤ 2 ^ (n.log2 + 1) * 2 ^ (fractionWidth - n.log2) :=
            Nat.mul_le_mul_right _ (Nat.le_of_lt above)
      _ = 2 ^ (fractionWidth + 1) := by rw [← Nat.pow_add, width]
  · rename_i long
    have width : fractionWidth + 1 + (n.log2 - fractionWidth) = n.log2 + 1 := by omega
    have below : n / 2 ^ (n.log2 - fractionWidth) < 2 ^ (fractionWidth + 1) := by
      rw [Nat.div_lt_iff_lt_mul (Nat.two_pow_pos _), ← Nat.pow_add, width]
      exact above
    exact Nat.le_trans (roundShift_le _ _) below

theorem significand_mono {m n : Nat} (h : m ≤ n) (lead : m.log2 = n.log2) :
    significand m ≤ significand n := by
  rw [significand, significand, lead]
  split
  · exact Nat.mul_le_mul_right _ h
  · exact roundShift_mono h _

/-! ## Magnitudes -/

theorem log2_mono {m n : Nat} (h : m ≤ n) (positive : m ≠ 0) : m.log2 ≤ n.log2 := by
  have reaches : 2 ^ m.log2 ≤ n := Nat.le_trans (Nat.log2_self_le positive) h
  exact (Nat.le_log2 (by omega)).2 reaches

theorem magnitudeOfNat_mono {m n : Nat} (h : m ≤ n) : magnitudeOfNat m ≤ magnitudeOfNat n := by
  by_cases zero : m = 0
  · rw [zero]
    exact Nat.zero_le _
  · have other : n ≠ 0 := by omega
    rw [magnitudeOfNat_of_ne_zero zero, magnitudeOfNat_of_ne_zero other]
    rcases Nat.lt_or_eq_of_le (log2_mono h zero) with less | same
    -- the power of two above `m` is not above `n`
    · have exponents : (m.log2 + 1022 + 1) * exponentUnit ≤ (n.log2 + 1022) * exponentUnit :=
        Nat.mul_le_mul_right _ (by omega)
      have upper := significand_le m
      have lower := exponentUnit_le_significand other
      rw [Nat.add_mul] at exponents
      omega
    · rw [same]
      exact Nat.add_le_add_left (significand_mono h same) _

/-- Integers of 64 bits are rounded to finite numbers. -/
theorem magnitudeOfNat_lt_infinity {n : Nat} (h : n ≤ 2 ^ 63) : magnitudeOfNat n < infinity := by
  have largest : magnitudeOfNat (2 ^ 63) < infinity := by decide +kernel
  exact Nat.lt_of_le_of_lt (magnitudeOfNat_mono h) largest

/-! ## The place of a rounded integer -/

theorem infinity_lt_signBit : infinity < signBit := by decide

theorem toNat_ofNat_bits {n : Nat} (h : n < 2 * signBit) : (UInt64.ofNat n).toNat = n :=
  UInt64.toNat_ofNat_of_lt h

theorem magnitude_ofInt {n : Int} (h : n.natAbs ≤ 2 ^ 63) :
    (ofInt n).magnitude = magnitudeOfNat n.natAbs := by
  have small : magnitudeOfNat n.natAbs < signBit :=
    Nat.lt_trans (magnitudeOfNat_lt_infinity h) infinity_lt_signBit
  unfold ofInt magnitude
  split
  · rw [toNat_ofNat_bits (by omega), Nat.add_mod_left, Nat.mod_eq_of_lt small]
  · rw [toNat_ofNat_bits (by omega), Nat.mod_eq_of_lt small]

theorem isNegative_ofInt {n : Int} (h : n.natAbs ≤ 2 ^ 63) :
    (ofInt n).isNegative = decide (n < 0) := by
  have small : magnitudeOfNat n.natAbs < signBit :=
    Nat.lt_trans (magnitudeOfNat_lt_infinity h) infinity_lt_signBit
  unfold ofInt isNegative
  split
  · rename_i negative
    rw [toNat_ofNat_bits (by omega)]
    simp [negative]
  · rename_i positive
    rw [toNat_ofNat_bits (by omega)]
    simp [positive, small]

theorem isNaN_ofInt {n : Int} (h : n.natAbs ≤ 2 ^ 63) : (ofInt n).isNaN = false := by
  have finite := magnitudeOfNat_lt_infinity h
  rw [isNaN, magnitude_ofInt h]
  exact decide_eq_false (by omega)

theorem rank_ofInt {n : Int} (h : n.natAbs ≤ 2 ^ 63) :
    (ofInt n).rank =
      if n < 0 then -(magnitudeOfNat n.natAbs : Int) else magnitudeOfNat n.natAbs := by
  rw [rank, isNegative_ofInt h, magnitude_ofInt h]
  simp only [decide_eq_true_eq]

/-- Of two integers, the greater one is not rounded to the smaller number. -/
theorem rank_ofInt_mono {m n : Int} (h : m ≤ n) (hm : m.natAbs ≤ 2 ^ 63)
    (hn : n.natAbs ≤ 2 ^ 63) : (ofInt m).rank ≤ (ofInt n).rank := by
  rw [rank_ofInt hm, rank_ofInt hn]
  split
  · split
    -- below zero the greater integer has the smaller magnitude
    · have magnitudes := magnitudeOfNat_mono (show n.natAbs ≤ m.natAbs by omega)
      omega
    · omega
  · rw [if_neg (by omega)]
    have magnitudes := magnitudeOfNat_mono (show m.natAbs ≤ n.natAbs by omega)
    omega

end Binary64
end RuleEngine
