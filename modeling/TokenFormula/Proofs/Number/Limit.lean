import TokenFormula.Number.Basic

/-!
# Limits of integers

An integer converts to a double unless it rounds beyond the largest one. The
least integer that does so lies half a step above the largest double. Integers
that doubles tell apart are far below the limit on digits.

Results:
* `overflows_one_iff`: which integers round beyond the largest double.
* `exists_toReal_int_iff`: which integers convert to a double.
-/

namespace TokenFormula.Double

/-- The largest double is `(2^53 - 1) · 2^971`; half a step above it the rounding
    goes up, as a tie goes to the even neighbour. -/
@[irreducible] def overflowLimit : Nat := (2 ^ 54 - 1) * 2 ^ 970

/-- With a variable for the exponent, so that no power is computed. -/
theorem overflowLimit_eq {e : Nat} (he : e = 970) : overflowLimit = (2 ^ 54 - 1) * 2 ^ e := by
  subst he
  unfold overflowLimit
  rfl

theorem limit_bounds (e : Nat) :
    2 ^ (53 + e) ≤ (2 ^ 54 - 1) * 2 ^ e ∧ (2 ^ 54 - 1) * 2 ^ e ≤ 2 ^ (54 + e) := by
  rw [Nat.pow_add, Nat.pow_add]
  generalize 2 ^ e = h
  omega

/-! ## Rounded quotients -/

theorem le_roundQuotient {num den b : Nat} (hd : 0 < den) (h : b * den ≤ num) :
    b ≤ roundQuotient num den := by
  have hb : b ≤ num / den := (Nat.le_div_iff_mul_le hd).mpr h
  unfold roundQuotient
  dsimp only
  split
  · exact hb
  · split <;> omega

theorem roundQuotient_le {num den b : Nat} (hd : 0 < den) (h : num ≤ b * den) :
    roundQuotient num den ≤ b := by
  have hle : num / den ≤ b := Nat.div_le_of_le_mul (by rw [Nat.mul_comm]; exact h)
  unfold roundQuotient
  dsimp only
  by_cases he : num / den = b
  · -- Then nothing is left to round up.
    have hr : num % den = 0 := by
      have := Nat.div_add_mod num den
      rw [he, Nat.mul_comm] at this
      omega
    rw [hr, if_pos (by omega)]
    exact hle
  · split
    · exact hle
    · split <;> omega

/-- An even result is reached from half a step below it on. -/
theorem le_roundQuotient_iff (num half b : Nat) (hb : b % 2 = 1) (hh : 0 < half) :
    b + 1 ≤ roundQuotient num (2 * half) ↔ b * (2 * half) + half ≤ num := by
  have hd : 0 < 2 * half := by omega
  rcases Nat.lt_trichotomy (num / (2 * half)) b with hq | hq | hq
  · have hnum : num < b * (2 * half) := (Nat.div_lt_iff_lt_mul hd).mp hq
    have hle := roundQuotient_le hd (Nat.le_of_lt hnum)
    omega
  · have hm := Nat.div_add_mod num (2 * half)
    rw [hq, Nat.mul_comm] at hm
    unfold roundQuotient
    dsimp only
    rw [hq]
    generalize b * (2 * half) = low at *
    split
    · omega
    · split <;> omega
  · have hnum : (b + 1) * (2 * half) ≤ num := (Nat.le_div_iff_mul_le hd).mp hq
    have hle := le_roundQuotient hd hnum
    rw [Nat.succ_mul] at hnum
    omega

/-! ## Integers -/

theorem quotientExponent_one {k : Nat} (hk : k ≠ 0) :
    quotientExponent k 1 = (k.log2 : Int) - 52 := by
  have hlog : Nat.log2 1 = 0 := rfl
  have hle : 2 ^ k.log2 ≤ k := Nat.log2_self_le hk
  unfold quotientExponent
  dsimp only
  rw [hlog, show ((k.log2 : Int) - (0 : Nat) - 53 + 53) = k.log2 by omega]
  rw [show (-(k.log2 : Int)).toNat = 0 by omega, Int.toNat_natCast, if_neg (by omega)]
  omega

/-- The rounded mantissa of an integer lies between `2^52` and `2^53`. -/
theorem mantissa_bounds {k : Nat} (hk : k ≠ 0) {q : Int} (hq : q = k.log2 - 52) :
    2 ^ 52 ≤ roundQuotient (k * 2 ^ (-q).toNat) (1 * 2 ^ q.toNat) ∧
      roundQuotient (k * 2 ^ (-q).toNat) (1 * 2 ^ q.toNat) ≤ 2 ^ 53 := by
  have hd : 0 < 1 * 2 ^ q.toNat :=
    Nat.mul_pos Nat.one_pos (Nat.two_pow_pos _)
  constructor
  · apply le_roundQuotient hd
    calc 2 ^ 52 * (1 * 2 ^ q.toNat) = 2 ^ (52 + q.toNat) := by rw [Nat.one_mul, Nat.pow_add]
      _ = 2 ^ (k.log2 + (-q).toNat) := by congr 1; omega
      _ = 2 ^ k.log2 * 2 ^ (-q).toNat := Nat.pow_add ..
      _ ≤ k * 2 ^ (-q).toNat := Nat.mul_le_mul_right _ (Nat.log2_self_le hk)
  · apply roundQuotient_le hd
    calc k * 2 ^ (-q).toNat ≤ 2 ^ (k.log2 + 1) * 2 ^ (-q).toNat :=
          Nat.mul_le_mul_right _ (Nat.le_of_lt Nat.lt_log2_self)
      _ = 2 ^ (k.log2 + 1 + (-q).toNat) := (Nat.pow_add ..).symm
      _ = 2 ^ (53 + q.toNat) := by congr 1; omega
      _ = 2 ^ 53 * (1 * 2 ^ q.toNat) := by rw [Nat.one_mul, Nat.pow_add]

/-- The integers that round beyond the largest double. -/
theorem overflows_one_iff (k : Nat) : overflows k 1 = true ↔ overflowLimit ≤ k := by
  by_cases hk : k = 0
  · subst hk
    decide +kernel
  have hlow : 2 ^ k.log2 ≤ k := Nat.log2_self_le hk
  have hhigh : k < 2 ^ (k.log2 + 1) := Nat.lt_log2_self
  obtain ⟨hm, hm'⟩ := mantissa_bounds hk rfl
  unfold overflows quotientBits
  rw [if_neg hk, quotientExponent_one hk, beq_iff_eq]
  dsimp only
  obtain ⟨e, he⟩ : ∃ e, e = 970 := ⟨970, rfl⟩
  rw [overflowLimit_eq he]
  rcases Nat.lt_trichotomy k.log2 (53 + e) with hl | hl | hl
  · have hlimit : k < (2 ^ 54 - 1) * 2 ^ e :=
      calc k < 2 ^ (k.log2 + 1) := hhigh
        _ ≤ 2 ^ (53 + e) := Nat.pow_le_pow_right (by decide) hl
        _ ≤ (2 ^ 54 - 1) * 2 ^ e := (limit_bounds e).1
    generalize roundQuotient _ _ = m at *
    constructor
    · intro h
      omega
    · intro h
      exact absurd hlimit (Nat.not_lt.mpr h)
  · -- In the last binade the mantissa has to carry.
    have hiff := le_roundQuotient_iff k (2 ^ e) (2 ^ 53 - 1) (by decide) (Nat.two_pow_pos e)
    have hden : 1 * 2 ^ ((k.log2 : Int) - 52).toNat = 2 * 2 ^ e := by
      rw [show ((k.log2 : Int) - 52).toNat = e + 1 by omega, Nat.one_mul, Nat.pow_succ']
    have hnum : k * 2 ^ (-((k.log2 : Int) - 52)).toNat = k := by
      rw [show (-((k.log2 : Int) - 52)).toNat = 0 by omega, Nat.pow_zero, Nat.mul_one]
    rw [hden, hnum] at hm hm' ⊢
    generalize 2 ^ e = half at *
    generalize roundQuotient _ _ = m at *
    omega
  · have hlimit : (2 ^ 54 - 1) * 2 ^ e ≤ k :=
      calc (2 ^ 54 - 1) * 2 ^ e ≤ 2 ^ (54 + e) := (limit_bounds e).2
        _ ≤ 2 ^ k.log2 := Nat.pow_le_pow_right (by decide) (by omega)
        _ ≤ k := hlow
    generalize roundQuotient _ _ = m at *
    constructor
    · intro _
      exact hlimit
    · intro _
      omega

end TokenFormula.Double

namespace TokenFormula.Number

theorem safeLimit_lt_textLimit {k : Nat} (h : k < safeLimit.natAbs) : k < textLimit := by
  refine Nat.lt_of_lt_of_le h ?_
  rw [textLimit]
  generalize hd : 4300 = digits
  calc safeLimit.natAbs ≤ 10 ^ 16 := by decide
    _ ≤ 10 ^ digits := Nat.pow_le_pow_right (by decide) (by omega)

theorem overflowLimit_le_textLimit : Double.overflowLimit ≤ textLimit := by
  obtain ⟨e, he⟩ : ∃ e, e = 970 := ⟨970, rfl⟩
  rw [textLimit, Double.overflowLimit_eq he]
  generalize hd : 4300 = digits
  calc (2 ^ 54 - 1) * 2 ^ e ≤ 2 ^ (54 + e) := (Double.limit_bounds e).2
    _ ≤ 10 ^ (54 + e) := Nat.pow_le_pow_left (by decide) _
    _ ≤ 10 ^ digits := Nat.pow_le_pow_right (by decide) (by omega)

/-- The integers that convert to a double. -/
theorem exists_toReal_int_iff (k : Int) :
    (∃ x, (int k).toReal = .ok x) ↔ k.natAbs < Double.overflowLimit := by
  have hk := Double.overflows_one_iff k.natAbs
  unfold toReal Double.ofInt?
  dsimp only
  cases ho : Double.overflows k.natAbs 1 with
  | true =>
    rw [ho] at hk
    simp only [true_iff] at hk
    simp [Nat.not_lt.mpr hk]
  | false =>
    rw [ho] at hk
    simp only [Bool.false_eq_true, false_iff, Nat.not_le] at hk
    simp [hk]

end TokenFormula.Number
