/-!
# Decimal numbers

A decimal is a binary floating-point number of 64 bits, held as its bit pattern. Comparison and
rounding are stated on the pattern and on natural numbers; only addition, multiplication and
division pass through machine arithmetic.
-/

namespace Fieldwise

/-- A floating-point number by its bit pattern: sign, 11 exponent bits, 52 fraction bits. -/
structure Decimal where
  bits : UInt64
  deriving DecidableEq, Repr

namespace Decimal

/-- The eleven exponent bits. -/
def exponentBits (d : Decimal) : Nat := d.bits.toNat / Nat.pow 2 52 % Nat.pow 2 11

/-- The 52 fraction bits. -/
def fractionBits (d : Decimal) : Nat := d.bits.toNat % Nat.pow 2 52

/-- The sign bit. -/
def isNegative (d : Decimal) : Bool := Nat.pow 2 63 ≤ d.bits.toNat

/-- Neither infinite nor undefined. -/
def isFinite (d : Decimal) : Bool := d.exponentBits < 2047

/-- An undefined result, which differs from every number. -/
def isNaN (d : Decimal) : Bool := d.exponentBits == 2047 && d.fractionBits != 0

/-- Either of the two zeros. -/
def isZero (d : Decimal) : Bool := d.exponentBits == 0 && d.fractionBits == 0

/-- Numeric equality: the two zeros agree, and an undefined result agrees with nothing. -/
def agrees (a b : Decimal) : Bool :=
  !a.isNaN && !b.isNaN && (a.bits == b.bits || a.isZero && b.isZero)

/-- The infinities and the zeros, by sign. -/
def infinity (negative : Bool) : Decimal :=
  ⟨if negative then 0xFFF0000000000000 else 0x7FF0000000000000⟩

@[inherit_doc infinity]
def zero (negative : Bool) : Decimal := ⟨if negative then 0x8000000000000000 else 0⟩

/-- An undefined result. -/
def undefined : Decimal := ⟨0x7FF8000000000000⟩

/-- The number `significand · 2 ^ exponent`, for a significand of at most 53 bits that has exactly
53 unless the exponent is the least, `-1074`. -/
private def encode (negative : Bool) (significand : Nat) (exponent : Int) : Decimal :=
  let magnitude :=
    if significand < Nat.pow 2 52 then significand
    else (exponent + 1075).toNat * Nat.pow 2 52 + (significand - Nat.pow 2 52)
  if 0x7FF0000000000000 ≤ magnitude then infinity negative
  else ⟨UInt64.ofNat (magnitude + if negative then Nat.pow 2 63 else 0)⟩

/-- A quotient to the nearest integer, a half to the even neighbour. -/
def roundToEven (num den : Nat) : Nat :=
  let floor := num / den
  let rest := num % den
  if 2 * rest < den then floor
  else if den < 2 * rest then floor + 1
  else floor + floor % 2

/-- The decimal nearest to `num / den`, a half to the even neighbour; too large is infinite. -/
def nearest (negative : Bool) (num den : Nat) : Decimal :=
  if num = 0 then zero negative
  else
    let shifted (exponent : Int) : Nat × Nat :=
      (num * Nat.pow 2 (-exponent).toNat, den * Nat.pow 2 exponent.toNat)
    let guess : Int := (num.log2 : Int) - den.log2 - 52
    let (n, d) := shifted guess
    let exponent := max (if n / d < Nat.pow 2 52 then guess - 1 else guess) (-1074)
    let (n, d) := shifted exponent
    encode negative (roundToEven n d) exponent

/-- The decimal nearest to a whole number. -/
def ofInt (i : Int) : Decimal := nearest (i < 0) i.natAbs 1

/-- The decimal nearest to `digits · 10 ^ exponent`. The bounds keep the powers of ten small where
the outcome is known to be infinite or zero. -/
def ofScaled (negative : Bool) (digits : Nat) (exponent : Int) : Decimal :=
  let size : Int := (Nat.toDigits 10 digits).length + exponent
  if digits = 0 ∨ size < -400 then zero negative
  else if 400 < size then infinity negative
  else nearest negative (digits * Nat.pow 10 exponent.toNat) (Nat.pow 10 (-exponent).toNat)

/-- The machine number with this pattern. -/
private def machine (d : Decimal) : Float := Float.ofBits d.bits

/-- Sum, product and quotient round to the nearest decimal. -/
def add (a b : Decimal) : Decimal := ⟨(a.machine + b.machine).toBits⟩

@[inherit_doc add]
def mul (a b : Decimal) : Decimal := ⟨(a.machine * b.machine).toBits⟩

@[inherit_doc add]
def div (a b : Decimal) : Decimal := ⟨(a.machine / b.machine).toBits⟩

/-- Rounding takes one of the two neighbours of a quotient, one that is not farther than the
other. -/
theorem roundToEven_eq (num den : Nat) :
    roundToEven num den = num / den ∧ 2 * (num % den) ≤ den ∨
      roundToEven num den = num / den + 1 ∧ den ≤ 2 * (num % den) := by
  simp only [roundToEven]
  split
  · next below => exact .inl ⟨rfl, Nat.le_of_lt below⟩
  · split
    · next above => exact .inr ⟨rfl, Nat.le_of_lt above⟩
    · rcases Nat.mod_two_eq_zero_or_one (num / den) with even | odd
      · exact .inl ⟨by omega, by omega⟩
      · exact .inr ⟨by omega, by omega⟩

/-- A positive number scaled by its order of magnitude has a quotient of exactly 53 bits. -/
theorem scaled_bounds {n : Nat} (pos : 0 < n) :
    Nat.pow 2 52 ≤ n * Nat.pow 2 (52 - n.log2) / Nat.pow 2 (n.log2 - 52) ∧
      n * Nat.pow 2 (52 - n.log2) / Nat.pow 2 (n.log2 - 52) < Nat.pow 2 53 := by
  have low : 2 ^ n.log2 ≤ n := Nat.log2_self_le (Nat.ne_of_gt pos)
  have high : n < 2 ^ (n.log2 + 1) := Nat.lt_log2_self
  simp only [Nat.pow_eq]
  constructor
  · rw [Nat.le_div_iff_mul_le (Nat.two_pow_pos _), ← Nat.pow_add]
    calc 2 ^ (52 + (n.log2 - 52)) = 2 ^ n.log2 * 2 ^ (52 - n.log2) := by
          rw [← Nat.pow_add]
          congr 1
          omega
      _ ≤ n * 2 ^ (52 - n.log2) := Nat.mul_le_mul_right _ low
  · rw [Nat.div_lt_iff_lt_mul (Nat.two_pow_pos _), ← Nat.pow_add]
    calc n * 2 ^ (52 - n.log2) < 2 ^ (n.log2 + 1) * 2 ^ (52 - n.log2) :=
          Nat.mul_lt_mul_of_pos_right high (Nat.two_pow_pos _)
      _ = 2 ^ (53 + (n.log2 - 52)) := by
          rw [← Nat.pow_add]
          congr 1
          omega

/-- The significand that a positive number rounds to. -/
def leading (n : Nat) : Nat :=
  roundToEven (n * Nat.pow 2 (52 - n.log2)) (Nat.pow 2 (n.log2 - 52))

/-- A number rounds to a significand of 53 bits, or to the next power of two. -/
theorem leading_bounds {n : Nat} (pos : 0 < n) :
    Nat.pow 2 52 ≤ leading n ∧ leading n ≤ Nat.pow 2 53 := by
  obtain ⟨low, high⟩ := scaled_bounds pos
  rw [leading]
  rcases roundToEven_eq (n * Nat.pow 2 (52 - n.log2)) (Nat.pow 2 (n.log2 - 52)) with
    ⟨rounded, -⟩ | ⟨rounded, -⟩
  · omega
  · omega

/-- A whole number of at most 64 bits keeps its order of magnitude, with the significand that it
rounds to; a significand that is the next power of two carries into the exponent. -/
theorem bits_ofInt {n : Nat} (pos : 0 < n) (small : n.log2 < 64) :
    (ofInt n).bits.toNat = (n.log2 + 1023) * Nat.pow 2 52 + (leading n - Nat.pow 2 52) := by
  obtain ⟨quotient, -⟩ := scaled_bounds pos
  obtain ⟨low, high⟩ := leading_bounds pos
  have down : (-((n.log2 : Int) - 52)).toNat = 52 - n.log2 := by omega
  have up : ((n.log2 : Int) - 52).toNat = n.log2 - 52 := by omega
  have order : max ((n.log2 : Int) - 52) (-1074) = n.log2 - 52 := by omega
  have field : ((n.log2 : Int) - 52 + 1075).toNat = n.log2 + 1023 := by omega
  have sign : decide ((n : Int) < 0) = false := by simp
  have one : (Nat.log2 1 : Int) = 0 := rfl
  simp only [ofInt, nearest, sign, Int.natAbs_natCast, Nat.ne_of_gt pos, ↓reduceIte, one,
    Int.sub_zero, down, up, Nat.one_mul, Nat.not_lt.mpr quotient, order]
  change (encode false (leading n) _).bits.toNat = _
  simp only [encode, Nat.not_lt.mpr low, ↓reduceIte, field]
  simp only [Nat.pow_eq] at high ⊢
  have bound : (n.log2 + 1023) * 2 ^ 52 + (leading n - 2 ^ 52) < 0x7FF0000000000000 := by
    omega
  rw [if_neg (Nat.not_le.mpr bound), if_neg Bool.false_ne_true, Nat.add_zero]
  apply UInt64.toNat_ofNat_of_lt'
  exact Nat.lt_trans bound (by decide)

/-- Agreement of decimals is symmetric. -/
theorem agrees_comm (a b : Decimal) : a.agrees b = b.agrees a := by
  have h : (a.bits == b.bits) = (b.bits == a.bits) := Bool.beq_comm
  simp only [agrees, h, Bool.and_comm a.isZero, Bool.and_comm (!a.isNaN)]

/-- A decimal agrees with itself unless it is undefined. -/
theorem agrees_self (a : Decimal) : a.agrees a = !a.isNaN := by
  simp [agrees]

end Decimal

end Fieldwise
