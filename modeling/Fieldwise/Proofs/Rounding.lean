import Mathlib.Algebra.Order.Field.Power
import Mathlib.Data.Rat.Cast.Order
import Mathlib.Tactic.Linarith
import Mathlib.Tactic.Positivity
import Mathlib.Tactic.Ring
import Fieldwise.Decimal.Shortest

/-!
# Whole numbers as decimals

A whole number of at most 64 bits becomes a finite decimal. Up to 53 bits the decimal is that
number; beyond, it keeps the leading 53 bits, rounded, and so misses the number by at most one part
in `2 ^ 53`. Sign and order of magnitude are never lost.
-/

namespace Fieldwise.Decimal

/-- The number that a finite decimal stands for. -/
def value (d : Decimal) : ℚ :=
  (if d.isNegative then -1 else 1) * (d.significand.1 * 2 ^ d.significand.2)

/-- The number of a positive decimal whose leading bit is implied by its exponent bits. -/
theorem value_of_bits {d : Decimal} {exponent fraction : Nat}
    (bits : d.bits.toNat = exponent * 2 ^ 52 + fraction) (implied : 0 < exponent)
    (finite : exponent < 2047) (small : fraction < 2 ^ 52) :
    d.isFinite = true ∧
      d.value = ((fraction + 2 ^ 52 : ℕ) : ℚ) * 2 ^ ((exponent : ℤ) - 1075) := by
  have exponentBits : d.exponentBits = exponent := by
    rw [Decimal.exponentBits, bits, Nat.pow_eq, Nat.pow_eq]
    omega
  have fractionBits : d.fractionBits = fraction := by
    rw [Decimal.fractionBits, bits, Nat.pow_eq]
    omega
  have positive : d.isNegative = false := by
    rw [isNegative, bits, Nat.pow_eq, decide_eq_false_iff_not]
    omega
  have significand : d.significand = (fraction + 2 ^ 52, (exponent : ℤ) - 1075) := by
    rw [Decimal.significand, exponentBits, fractionBits, if_neg (Nat.ne_of_gt implied), Nat.pow_eq]
  constructor
  · rw [isFinite, exponentBits, decide_eq_true finite]
  · rw [value, positive, significand, if_neg Bool.false_ne_true, one_mul]

/-- A positive whole number of at most 64 bits becomes a finite decimal, with the number's order of
magnitude and the significand that it rounds to. -/
theorem value_ofInt {n : Nat} (pos : 0 < n) (small : n.log2 < 64) :
    (ofInt n).isFinite = true ∧ (ofInt n).value = leading n * 2 ^ ((n.log2 : ℤ) - 52) := by
  have bits := bits_ofInt pos small
  obtain ⟨low, high⟩ := leading_bounds pos
  simp only [Nat.pow_eq] at bits low high
  -- a significand that is the next power of two is held as half of it, under the next exponent
  rcases Nat.lt_or_eq_of_le high with within | carried
  · obtain ⟨finite, number⟩ := value_of_bits bits (by omega) (by omega) (by omega)
    refine ⟨finite, number.trans ?_⟩
    have exponent : ((n.log2 + 1023 : ℕ) : ℤ) - 1075 = (n.log2 : ℤ) - 52 := by omega
    rw [Nat.sub_add_cancel low, exponent]
  · have bits : (ofInt n).bits.toNat = (n.log2 + 1024) * 2 ^ 52 + 0 := by
      rw [bits, carried]
      omega
    obtain ⟨finite, number⟩ := value_of_bits bits (by omega) (by omega) (by decide)
    refine ⟨finite, number.trans ?_⟩
    have exponent : ((n.log2 + 1024 : ℕ) : ℤ) - 1075 = (n.log2 : ℤ) - 52 + 1 := by omega
    rw [carried, exponent, zpow_add_one₀ two_ne_zero]
    push_cast
    ring

/-- Rounding moves a quotient by at most one half. -/
theorem roundToEven_near (num den : Nat) (pos : 0 < den) :
    2 * num ≤ 2 * (roundToEven num den * den) + den ∧
      2 * (roundToEven num den * den) ≤ 2 * num + den := by
  have parts : num / den * den + num % den = num := Nat.div_add_mod' num den
  have rest : num % den < den := Nat.mod_lt num pos
  rcases roundToEven_eq num den with ⟨rounded, near⟩ | ⟨rounded, near⟩
  · rw [rounded]
    omega
  · rw [rounded, Nat.add_mul, Nat.one_mul]
    omega

private theorem leading_of_short {n : Nat} (short : n.log2 ≤ 52) :
    leading n = n * 2 ^ (52 - n.log2) := by
  obtain ⟨low, high⟩ := roundToEven_near (n * 2 ^ (52 - n.log2)) 1 Nat.one_pos
  rw [leading, Nat.pow_eq, Nat.pow_eq, Nat.sub_eq_zero_of_le short, Nat.pow_zero]
  omega

/-- The significand that a number rounds to misses the number by at most one part in `2 ^ 53`. -/
theorem leading_near {n : Nat} (pos : 0 < n) :
    |(leading n : ℚ) * 2 ^ ((n.log2 : ℤ) - 52) - n| * 2 ^ 53 ≤ n := by
  rcases Nat.le_total n.log2 52 with short | long
  · have scale : (2 : ℚ) ^ ((n.log2 : ℤ) - 52) = ((2 : ℚ) ^ (52 - n.log2))⁻¹ := by
      rw [← zpow_natCast, ← zpow_neg, Nat.cast_sub short]
      ring_nf
    have exact : (leading n : ℚ) * 2 ^ ((n.log2 : ℤ) - 52) = n := by
      rw [leading_of_short short, scale, Nat.cast_mul, Nat.cast_pow, Nat.cast_ofNat, mul_assoc,
        mul_inv_cancel₀ (by positivity), mul_one]
    rw [exact, sub_self, abs_zero, zero_mul]
    positivity
  · have scale : (2 : ℚ) ^ ((n.log2 : ℤ) - 52) = ((2 ^ (n.log2 - 52) : ℕ) : ℚ) := by
      rw [Nat.cast_pow, Nat.cast_ofNat, ← zpow_natCast, Nat.cast_sub long]
      rfl
    -- the last bit that is kept counts for one part in `2 ^ 52` of the leading one
    have order : 2 ^ (n.log2 - 52) * 2 ^ 52 ≤ n := by
      rw [← Nat.pow_add, Nat.sub_add_cancel long]
      exact Nat.log2_self_le (Nat.ne_of_gt pos)
    obtain ⟨low, high⟩ := roundToEven_near n (2 ^ (n.log2 - 52)) (Nat.two_pow_pos _)
    have kept : leading n = roundToEven n (2 ^ (n.log2 - 52)) := by
      rw [leading, Nat.pow_eq, Nat.pow_eq, Nat.sub_eq_zero_of_le long, Nat.pow_zero, Nat.mul_one]
    rw [← kept] at low high
    rw [scale]
    generalize 2 ^ (n.log2 - 52) = unit at low high order
    have low : 2 * (n : ℚ) ≤ 2 * (leading n * unit) + unit := by exact_mod_cast low
    have high : 2 * ((leading n : ℚ) * unit) ≤ 2 * n + unit := by exact_mod_cast high
    have order : (unit : ℚ) * 2 ^ 52 ≤ n := by exact_mod_cast order
    have near : |(leading n : ℚ) * unit - n| ≤ unit / 2 := by
      rw [abs_le]
      constructor
      · linarith
      · linarith
    calc |(leading n : ℚ) * unit - n| * 2 ^ 53 ≤ (unit : ℚ) / 2 * 2 ^ 53 := by gcongr
      _ = (unit : ℚ) * 2 ^ 52 := by ring
      _ ≤ (n : ℚ) := order

/-- A whole number of at most 64 bits becomes a finite decimal, which misses the number by at most
one part in `2 ^ 53`. -/
theorem ofInt_near (n : Nat) (small : n < 2 ^ 64) :
    (ofInt n).isFinite = true ∧ |(ofInt n).value - n| * 2 ^ 53 ≤ n := by
  rcases Nat.eq_zero_or_pos n with rfl | pos
  · have nothing : (ofInt (0 : ℕ)).significand.1 = 0 := rfl
    have zero : (ofInt (0 : ℕ)).value = 0 := by
      rw [value, nothing, Nat.cast_zero (R := ℚ), zero_mul, mul_zero]
    refine ⟨rfl, ?_⟩
    rw [zero, Nat.cast_zero, sub_zero, abs_zero, zero_mul]
  · have bound : n.log2 < 64 := (Nat.log2_lt (Nat.ne_of_gt pos)).mpr small
    obtain ⟨finite, number⟩ := value_ofInt pos bound
    exact ⟨finite, number ▸ leading_near pos⟩

end Fieldwise.Decimal
