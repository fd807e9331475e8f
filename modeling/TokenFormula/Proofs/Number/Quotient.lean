import TokenFormula.Proofs.Number.Round

/-!
# The floor of a rounded quotient

The quotient of two naturals is rounded to a double before its floor is taken.
Rounding can carry it over the next integer, or far beyond `2^53`. But it does not
take the quotient below an integer up to `2^53`, since such integers are doubles.

Results:
* `exists_exact_ofQuotient`: the value that a quotient is rounded to.
* `le_floor_ofQuotient`, `le_floor_of_divide_int`: the floor of a rounded quotient,
  from below.
-/

namespace TokenFormula.Double

/-- The mantissa of the double nearest to `num / den`, before it carries. -/
def quotientMantissa (num den : ℕ) : ℕ :=
  roundQuotient (num * 2 ^ (-quotientExponent num den).toNat)
    (den * 2 ^ (quotientExponent num den).toNat)

theorem two_pow_mul_zpow (k : ℕ) (q : ℤ) : ((2 ^ k : ℕ) : ℚ) * 2 ^ q = 2 ^ (k + q) := by
  rw [Nat.cast_pow, Nat.cast_ofNat, ← zpow_natCast, ← zpow_add₀ (by norm_num)]

section Quotient

variable {num den : ℕ}

theorem le_quotientMantissa {b : ℕ} (hd : 0 < den)
    (h : (b : ℚ) ≤ (num / den : ℚ) / 2 ^ quotientExponent num den) :
    b ≤ quotientMantissa num den := by
  have hd' : 0 < den * 2 ^ (quotientExponent num den).toNat := by positivity
  refine le_roundQuotient hd' ?_
  rw [← scaled_quotient, le_div_iff₀ (by exact_mod_cast hd')] at h
  exact_mod_cast h

theorem quotientMantissa_le {b : ℕ} (hd : 0 < den)
    (h : (num / den : ℚ) / 2 ^ quotientExponent num den ≤ b) :
    quotientMantissa num den ≤ b := by
  have hd' : 0 < den * 2 ^ (quotientExponent num den).toNat := by positivity
  refine roundQuotient_le hd' ?_
  rw [← scaled_quotient, div_le_iff₀ (by exact_mod_cast hd')] at h
  exact_mod_cast h

/-- Above the exponent of the subnormal numbers, the mantissa is that of a normal
    number, or carries. -/
theorem quotientMantissa_bounds (hn : 0 < num) (hd : 0 < den) :
    -1074 ≤ quotientExponent num den ∧ quotientMantissa num den ≤ 2 ^ 53 ∧
      (-1074 < quotientExponent num den → 2 ^ 52 ≤ quotientMantissa num den) := by
  obtain ⟨e, hlow, hhigh, he⟩ := exists_quotientExponent hn hd
  refine ⟨he ▸ le_max_right .., quotientMantissa_le hd ?_, fun hq => le_quotientMantissa hd ?_⟩
  · rw [he, div_le_iff₀ (two_zpow_pos _), two_pow_mul_zpow]
    exact hhigh.le.trans (zpow_le_zpow_right₀ (by norm_num) (by omega))
  · rw [he, le_div_iff₀ (two_zpow_pos _), two_pow_mul_zpow]
    exact (zpow_le_zpow_right₀ (by norm_num) (by omega)).trans hlow

/-- A quotient that does not overflow is rounded to a finite double. -/
theorem exists_exact_ofQuotient (hn : 0 < num) (hd : 0 < den) (ho : overflows num den = false)
    (s : Bool) : ∃ m q, exact (ofQuotient s num den) = .finite s m q ∧
      (m : ℚ) * 2 ^ q = quotientMantissa num den * 2 ^ quotientExponent num den := by
  obtain ⟨hq, hm, hnormal⟩ := quotientMantissa_bounds hn hd
  obtain ⟨r, hr, hbits⟩ : ∃ r, r = (quotientExponent num den + 1074).toNat * 2 ^ 52 +
      quotientMantissa num den ∧ quotientBits num den = min r (2047 * 2 ^ 52) :=
    ⟨_, rfl, if_neg hn.ne'⟩
  have hfinite : r < 2047 * 2 ^ 52 := by
    unfold overflows at ho
    rw [hbits, beq_eq_false_iff_ne] at ho
    omega
  have hsign : (if s then 2 ^ 63 else 0) = (if s then 1 else 0) * 2 ^ 63 := by
    cases s <;> rfl
  unfold ofQuotient
  rw [exact_ofBits, hbits, min_eq_left hfinite.le, hsign, Nat.add_comm, UInt64.toNat_ofNat',
    Nat.mod_eq_of_lt (by split <;> omega), Exact.ofBits_add s (by omega), if_neg (by omega)]
  generalize quotientMantissa num den = m at *
  generalize quotientExponent num den = q at *
  clear hbits hsign
  by_cases hcarry : m = 2 ^ 53
  · -- The carry doubles the mantissa `2^52` of the next exponent.
    refine ⟨2 ^ 52, q + 1, ?_, ?_⟩
    · rw [if_neg (by omega), show r % 2 ^ 52 = 0 by omega,
        show ((r / 2 ^ 52 : ℕ) : ℤ) - 1075 = q + 1 by omega]
    · rw [hcarry]
      have h52 := two_pow_mul_zpow 52 (q + 1)
      have h53 := two_pow_mul_zpow 53 q
      push_cast at h52 h53 ⊢
      rw [h52, h53]
      congr 1
      ring
  · refine ⟨m, q, ?_, rfl⟩
    by_cases hm52 : m < 2 ^ 52
    · obtain rfl : q = -1074 := by omega
      rw [if_pos (by omega), show r % 2 ^ 52 = m by omega]
    · rw [if_neg (by omega), show 2 ^ 52 + r % 2 ^ 52 = m by omega,
        show ((r / 2 ^ 52 : ℕ) : ℤ) - 1075 = q by omega]

/-- The rounded quotient is not below an integer up to `2^53` that the quotient is
    not below. -/
theorem le_rounded {n : ℕ} (hnum : 0 < num) (hd : 0 < den) (hn : n ≤ 2 ^ 53)
    (h : n * den ≤ num) :
    (n : ℚ) ≤ quotientMantissa num den * 2 ^ quotientExponent num den := by
  obtain ⟨hq, -, hnormal⟩ := quotientMantissa_bounds hnum hd
  have hquotient : (n : ℚ) ≤ num / den := by
    rw [le_div_iff₀ (by exact_mod_cast hd)]
    exact_mod_cast h
  rcases le_or_gt (quotientExponent num den) 0 with hneg | hpos
  · -- The integer is a multiple of the last place.
    obtain ⟨k, hk⟩ : ∃ k : ℕ, quotientExponent num den = -k :=
      ⟨(-quotientExponent num den).toNat, by omega⟩
    have hmantissa : n * 2 ^ k ≤ quotientMantissa num den := by
      refine le_quotientMantissa hd ?_
      rw [hk, zpow_neg, zpow_natCast, div_inv_eq_mul]
      push_cast
      exact mul_le_mul_of_nonneg_right hquotient (by positivity)
    rw [hk, zpow_neg, zpow_natCast, ← div_eq_mul_inv, le_div_iff₀ (by positivity)]
    exact_mod_cast hmantissa
  · calc (n : ℚ) ≤ 2 ^ (53 : ℤ) := by exact_mod_cast hn
      _ ≤ 2 ^ ((52 : ℕ) + quotientExponent num den) :=
          zpow_le_zpow_right₀ (by norm_num) (by push_cast; omega)
      _ = ((2 ^ 52 : ℕ) : ℚ) * 2 ^ quotientExponent num den := (two_pow_mul_zpow 52 _).symm
      _ ≤ quotientMantissa num den * 2 ^ quotientExponent num den :=
          mul_le_mul_of_nonneg_right (by exact_mod_cast hnormal (by omega)) (two_zpow_pos _).le

end Quotient

theorem le_floorScaled_iff {s : Bool} {m : ℕ} {q n : ℤ} :
    n ≤ floorScaled s m q ↔ (n : ℚ) ≤ withSign s m * 2 ^ q := by
  have h := zpow_eq_div (b := 2) (by norm_num) q
  rw [Nat.cast_ofNat] at h
  have hd : (0 : ℤ) < 2 ^ (-q).toNat := by positivity
  rw [floorScaled, Int.le_ediv_iff_mul_le hd, h, ← mul_div_assoc, le_div_iff₀ (by positivity)]
  exact_mod_cast Iff.rfl

/-- The floor of a rounded quotient is at least every integer up to `2^53` that the
    quotient is not below. -/
theorem le_floor_ofQuotient {num den n : ℕ} (hd : 0 < den) (ho : overflows num den = false)
    (hn : n ≤ 2 ^ 53) (h : n * den ≤ num) :
    ∃ k, (Number.real (ofQuotient false num den)).floor = .ok k ∧ (n : ℤ) ≤ k := by
  have hfinite : ∃ m q, exact (ofQuotient false num den) = .finite false m q ∧
      (n : ℚ) ≤ m * 2 ^ q := by
    rcases Nat.eq_zero_or_pos num with rfl | hnum
    · obtain rfl : n = 0 := by
        rw [Nat.le_zero, Nat.mul_eq_zero] at h
        omega
      refine ⟨0, -1074, ?_, by simp⟩
      show exact (Float.ofBits 0) = _
      rw [exact_ofBits]
      rfl
    · obtain ⟨m, q, hexact, hvalue⟩ := exists_exact_ofQuotient hnum hd ho false
      exact ⟨m, q, hexact, hvalue ▸ le_rounded hnum hd hn h⟩
  obtain ⟨m, q, hexact, hle⟩ := hfinite
  refine ⟨floorScaled false m q, ?_, le_floorScaled_iff.mpr (by exact_mod_cast hle)⟩
  show Number.integerPart floorScaled (ofQuotient false num den) = _
  rw [Number.integerPart, hexact]

end TokenFormula.Double

namespace TokenFormula.Number

/-- The floor of a quotient of integers is at least every integer up to `2^53` that the
    exact quotient is not below. -/
theorem le_floor_of_divide_int {i j k : ℤ} {n : ℕ} {a : Number}
    (hj : 0 < j) (hn : n ≤ 2 ^ 53) (h : n * j ≤ i) (hdivide : (int i).divide (int j) = .ok a)
    (hfloor : a.floor = .ok k) : n ≤ k := by
  obtain ⟨num, rfl⟩ := Int.eq_ofNat_of_zero_le (le_trans (by positivity) h)
  obtain ⟨den, rfl⟩ := Int.eq_ofNat_of_zero_le hj.le
  unfold divide at hdivide
  simp only [Int.natAbs_natCast] at hdivide
  split at hdivide
  · cases hdivide
  · split at hdivide
    · cases hdivide
    · rename_i ho
      rw [Bool.not_eq_true] at ho
      obtain rfl := Except.ok.inj hdivide
      obtain ⟨k', hk', hle⟩ := Double.le_floor_ofQuotient (by exact_mod_cast hj) ho hn
        (by exact_mod_cast h)
      rw [decide_eq_false (by omega), decide_eq_false (by omega), bne_self_eq_false, hk'] at hfloor
      obtain rfl := Except.ok.inj hfloor
      exact hle

end TokenFormula.Number
