import Mathlib.Data.Rat.Floor
import TokenFormula.Proofs.Number.Division

/-!
# Sums of doubles

The sum of two doubles is rounded once: it is the double nearest to the exact sum,
a tie going to the even neighbour. So what is known about the double nearest to a
quotient of naturals is known about sums.

Results:
* `roundedMantissa_shiftRight`: the bits that a shift keeps round as the quotient does.
* `InFormat.unique`: a value has one mantissa and exponent.
* `round_spec`: rounding gives the mantissa of the nearest double.
* `add_eq_ofQuotient`, `HasValue.add_rounded`: a sum is the double nearest to the exact
  sum.
* `HasValue.floor_eq`: the floor of a double is that of its value.
-/

namespace TokenFormula.Double

open Float.Model Float.Model.UnpackedFloat

/-! ## Rounded quotients of naturals -/

section Quotient

variable {a b c d : ℕ}

theorem roundQuotient_within (hb : 0 < b) :
    Within (roundQuotient a b % 2 = 0) (roundQuotient a b - 1 / 2) (roundQuotient a b + 1 / 2)
      (a / b) := by
  have hbq : (0 : ℚ) < b := by exact_mod_cast hb
  have hr := Nat.mod_lt a hb
  have ha : (a : ℚ) = b * (a / b : ℕ) + (a % b : ℕ) := by exact_mod_cast (Nat.div_add_mod a b).symm
  have hquotient : (a / b : ℚ) = (a / b : ℕ) + (a % b : ℕ) / b := by
    rw [ha]
    field_simp
  rw [hquotient]
  unfold roundQuotient
  dsimp only
  generalize a / b = n
  generalize a % b = r at hr
  have hr0 : (0 : ℚ) ≤ r / b := by positivity
  have hr1 : (r / b : ℚ) < 1 := by rw [div_lt_one hbq]; exact_mod_cast hr
  split
  · rename_i hlt
    have : (r / b : ℚ) < 1 / 2 := by
      rw [div_lt_iff₀ hbq]
      have : (2 * r : ℚ) < b := by exact_mod_cast hlt
      linarith
    exact ⟨.inl (by linarith), .inl (by linarith)⟩
  · split
    · rename_i hgt
      have : (1 / 2 : ℚ) < r / b := by
        rw [lt_div_iff₀ hbq]
        have : (b : ℚ) < 2 * r := by exact_mod_cast hgt
        linarith
      push_cast
      exact ⟨.inl (by linarith), .inl (by linarith)⟩
    · -- A tie.
      have hhalf : (r / b : ℚ) = 1 / 2 := by
        rw [div_eq_iff hbq.ne']
        have : (2 * r : ℚ) = b := by exact_mod_cast (by omega : 2 * r = b)
        linarith
      have heven : (n + n % 2) % 2 = 0 := by omega
      rw [hhalf]
      obtain h | h : n % 2 = 0 ∨ n % 2 = 1 := by omega
      · rw [h]
        exact ⟨.inl (by push_cast; linarith), .inr ⟨by omega, by push_cast; ring⟩⟩
      · rw [h]
        exact ⟨.inr ⟨by omega, by push_cast; ring⟩, .inl (by push_cast; linarith)⟩

/-- Equal quotients are rounded to the same. -/
theorem roundQuotient_congr (hb : 0 < b) (hd : 0 < d) (h : (a / b : ℚ) = c / d) :
    roundQuotient a b = roundQuotient c d :=
  roundQuotient_eq hb (h ▸ roundQuotient_within hd)

end Quotient

/-! ## Shifts -/

/-- The bits behind a shifted mantissa tell how what is cut off compares with a half. -/
theorem shiftRight_bits (M k : ℕ) :
    (((⟨M, false, false⟩ : ExtendedMantissa) >>> k).roundBit = true ↔ 2 ^ k ≤ 2 * (M % 2 ^ k)) ∧
      (((⟨M, false, false⟩ : ExtendedMantissa) >>> k).stickyBit = true ↔
        M % 2 ^ k ≠ 0 ∧ 2 * (M % 2 ^ k) ≠ 2 ^ k) := by
  induction k with
  | zero =>
    rw [Nat.pow_zero, Nat.mod_one]
    exact ⟨iff_of_false Bool.false_ne_true (by omega),
      iff_of_false Bool.false_ne_true fun h => h.1 rfl⟩
  | succ k ih =>
    have hmantissa := mantissa_shiftRight ⟨M, false, false⟩ k
    have hr := Nat.mod_lt M (Nat.two_pow_pos k)
    have hsplit : M % 2 ^ (k + 1) = M % 2 ^ k + 2 ^ k * (M / 2 ^ k % 2) := by
      rw [Nat.pow_succ, Nat.mod_mul]
    have hround : ((⟨M, false, false⟩ : ExtendedMantissa) >>> (k + 1)).roundBit =
        (M / 2 ^ k % 2 != 0) := by
      rw [← hmantissa]
      rfl
    have hsticky : ((⟨M, false, false⟩ : ExtendedMantissa) >>> (k + 1)).stickyBit =
        (((⟨M, false, false⟩ : ExtendedMantissa) >>> k).roundBit ||
          ((⟨M, false, false⟩ : ExtendedMantissa) >>> k).stickyBit) := rfl
    rw [hround, hsticky, Bool.or_eq_true, ih.1, ih.2, bne_iff_ne, hsplit, Nat.pow_succ]
    obtain hbit | hbit : M / 2 ^ k % 2 = 0 ∨ M / 2 ^ k % 2 = 1 := by omega
    · rw [hbit]
      omega
    · rw [hbit]
      omega

/-- What a shift leaves is rounded as the quotient by the power of two. -/
theorem roundedMantissa_shiftRight (M k : ℕ) :
    ((⟨M, false, false⟩ : ExtendedMantissa) >>> k).roundedMantissa = roundQuotient M (2 ^ k) := by
  obtain ⟨hround, hsticky⟩ := shiftRight_bits M k
  have hmantissa := mantissa_shiftRight ⟨M, false, false⟩ k
  unfold roundQuotient
  generalize ((⟨M, false, false⟩ : ExtendedMantissa) >>> k) = em at *
  obtain ⟨m, bit, sticky⟩ := em
  dsimp only at hmantissa hround hsticky ⊢
  have hr := Nat.mod_lt M (Nat.two_pow_pos k)
  rw [← hmantissa]
  cases bit <;> cases sticky <;>
    simp only [Bool.false_eq_true, true_iff, false_iff] at hround hsticky <;>
    simp only [ExtendedMantissa.roundedMantissa, ExtendedMantissa.accuracy,
      Accuracy.roundToNearestEven]
  · rw [if_pos (by omega)]
  · rw [if_pos (by omega)]
  · rw [if_neg (by omega), if_neg (by omega)]
  · rw [if_neg (by omega), if_pos (by omega)]

/-! ## Mantissas and exponents of doubles -/

section Format

variable {s : Bool} {m m' : ℕ} {q q' : ℤ}

theorem inFormat_of_canonical (hc : (Exact.finite s m q).Canonical) : InFormat m q := by
  obtain ⟨hm, rfl⟩ | ⟨hm, hm', hq, -⟩ := hc
  · exact ⟨by omega, le_refl _, .inr (le_refl _)⟩
  · exact ⟨hm', hq, .inl hm⟩

theorem InFormat.eq_of_le (h : InFormat m q) (h' : InFormat m' q')
    (hvalue : (m : ℚ) * 2 ^ q = m' * 2 ^ q') (hq : q ≤ q') : m = m' ∧ q = q' := by
  obtain ⟨j, rfl, rfl⟩ := eq_mul_pow_of_value_eq hvalue hq
  rcases Nat.eq_zero_or_pos j with rfl | hj
  · exact ⟨by rw [Nat.pow_zero, Nat.mul_one], by simp⟩
  · -- The greater exponent is above the least one, so its mantissa is long already.
    have hlow := h.le
    have h52 : 2 ^ 52 ≤ m' := h'.full.resolve_right (by omega)
    have h2 : 2 ≤ 2 ^ j := Nat.le_self_pow hj.ne' 2
    have := Nat.mul_le_mul h52 h2
    exact absurd h.lt (by omega)

/-- A value has one mantissa and one exponent. -/
theorem InFormat.unique (h : InFormat m q) (h' : InFormat m' q')
    (hvalue : (m : ℚ) * 2 ^ q = m' * 2 ^ q') : m = m' ∧ q = q' := by
  rcases le_total q q' with hq | hq
  · exact h.eq_of_le h' hvalue hq
  · obtain ⟨hm, hq⟩ := h'.eq_of_le h hvalue.symm hq
    exact ⟨hm.symm, hq.symm⟩

end Format

/-! ## Rounding -/

section Round

variable {M num den : ℕ} {E : ℤ}

/-- The exponent to which a value is rounded is that of the nearest double. -/
theorem targetExponent_eq_quotientExponent (hM : M ≠ 0) (hn : 0 < num) (hd : 0 < den)
    (h : (M * 2 ^ E : ℚ) = num / den) :
    Format.binary64.targetExponent (totalExponent M E) = quotientExponent num den := by
  obtain ⟨e, hlow, hhigh, he⟩ := exists_quotientExponent hn hd
  have hp := two_zpow_pos E
  rw [← h] at hlow hhigh
  have hM1 : ((2 ^ M.log2 : ℕ) : ℚ) ≤ M := by exact_mod_cast Nat.log2_self_le hM
  have hM2 : (M : ℚ) < (2 ^ (M.log2 + 1) : ℕ) := by exact_mod_cast @Nat.lt_log2_self M
  have h1 : (2 : ℚ) ^ ((M.log2 : ℕ) + E) < 2 ^ (e + 53) := by
    rw [← two_pow_mul_zpow]
    exact (mul_le_mul_of_nonneg_right hM1 hp.le).trans_lt hhigh
  have h2 : (2 : ℚ) ^ (e + 52) < 2 ^ ((M.log2 + 1 : ℕ) + E) := by
    rw [← two_pow_mul_zpow]
    exact hlow.trans_lt (mul_lt_mul_of_pos_right hM2 hp)
  have h1 := two_zpow_lt_iff.mp h1
  have h2 := two_zpow_lt_iff.mp h2
  rw [targetExponent_eq, he, totalExponent]
  push_cast at h2
  congr 1
  omega

/-- The mantissa to which a value is rounded is that of the nearest double. -/
theorem roundQuotient_eq_quotientMantissa (hd : 0 < den) (h : (M * 2 ^ E : ℚ) = num / den)
    {q : ℤ} (hq : quotientExponent num den = q) :
    roundQuotient (M * 2 ^ (E - q).toNat) (2 ^ (q - E).toNat) = quotientMantissa num den := by
  unfold quotientMantissa
  rw [hq]
  refine roundQuotient_congr (Nat.two_pow_pos _) (by positivity) ?_
  rw [scaled_quotient, ← h, div_eq_div_iff (by positivity) (two_zpow_pos q).ne']
  have hsplit : (2 : ℚ) ^ (E - q).toNat * 2 ^ q = 2 ^ E * 2 ^ (q - E).toNat := by
    rw [← zpow_natCast, ← zpow_natCast, ← zpow_add₀ (by norm_num), ← zpow_add₀ (by norm_num)]
    congr 1
    omega
  push_cast
  rw [mul_assoc, hsplit, ← mul_assoc]

/-- A rounded mantissa that carries is shifted once more. -/
theorem shiftToTargetExponent_rounded {m : ℕ} {q : ℤ} (hm : m ≤ 2 ^ 53) (hq : -1074 ≤ q) :
    shiftToTargetExponent Format.binary64 m q .exact =
      if m = 2 ^ 53 then (⟨2 ^ 52, false, false⟩, q + 1) else (⟨m, false, false⟩, q) := by
  unfold shiftToTargetExponent shiftToExponent
  rw [targetExponent_eq]
  dsimp only [ExtendedMantissa.ofMantissaAndAccuracy]
  split
  · rename_i hcarry
    subst hcarry
    have hlog : totalExponent (2 ^ 53) q = 54 + q := by
      rw [totalExponent, Nat.log2_two_pow]
      rfl
    rw [hlog, show (max (54 + q - 53) (-1074) - q).toNat = 1 by omega]
    rfl
  · rename_i hcarry
    have hlog : totalExponent m q ≤ 53 + q := by
      unfold totalExponent
      by_cases h0 : m = 0
      · rw [h0, Nat.log2_zero]
        omega
      · have := (Nat.log2_lt h0).mpr (lt_of_le_of_ne hm hcarry)
        omega
    rw [show (max (totalExponent m q - 53) (-1074) - q).toNat = 0 by omega]
    exact Prod.ext rfl (Int.add_zero q)

/-- Rounding gives the nearest double, or what would be one beyond the largest. -/
theorem round_spec (hM : M ≠ 0) (hn : 0 < num) (hd : 0 < den) (h : (M * 2 ^ E : ℚ) = num / den)
    (s : Bool) :
    ∃ m q, UnpackedFloat.round Format.binary64 (signOf s) M E = (Exact.finite s m q).unpacked ∧
      InFormat m q ∧ (m * 2 ^ q : ℚ) = quotientMantissa num den * 2 ^ quotientExponent num den := by
  obtain ⟨hq, hm, hnormal⟩ := quotientMantissa_bounds hn hd
  have htarget := targetExponent_eq_quotientExponent hM hn hd h
  have hmantissa := roundQuotient_eq_quotientMantissa hd h rfl
  generalize hqe : quotientExponent num den = q at *
  generalize quotientMantissa num den = m at *
  have hfirst : shiftToTargetExponent Format.binary64 (M * 2 ^ (E - q).toNat)
      (E - (E - q).toNat) .exact =
        ((⟨M * 2 ^ (E - q).toNat, false, false⟩ : ExtendedMantissa) >>> (q - E).toNat, q) := by
    unfold shiftToTargetExponent shiftToExponent
    rw [totalExponent_mul_pow hM, htarget]
    dsimp only [ExtendedMantissa.ofMantissaAndAccuracy]
    rw [show (q - (E - (E - q).toNat)).toNat = (q - E).toNat by omega]
    refine Prod.ext rfl ?_
    show E - (E - q).toNat + (q - E).toNat = q
    omega
  have hround : UnpackedFloat.round Format.binary64 (signOf s) M E =
      match shiftToTargetExponent Format.binary64 m q .exact with
      | (em, e) => (Exact.finite s em.mantissa e).unpacked := by
    unfold UnpackedFloat.round decreaseExponent
    dsimp only
    rw [htarget, Nat.shiftLeft_eq]
    unfold roundWithAccuracy
    rw [hfirst]
    dsimp only
    rw [roundedMantissa_shiftRight, hmantissa]
    rfl
  rw [hround, shiftToTargetExponent_rounded hm hq]
  by_cases hcarry : m = 2 ^ 53
  · rw [if_pos hcarry]
    refine ⟨2 ^ 52, q + 1, rfl, ⟨by decide, by omega, .inl (le_refl _)⟩, ?_⟩
    rw [hcarry, two_pow_mul_zpow, two_pow_mul_zpow]
    congr 1
    push_cast
    ring
  · rw [if_neg hcarry]
    refine ⟨m, q, rfl, ⟨by omega, hq, ?_⟩, rfl⟩
    unfold Full
    omega

/-- A value that does not overflow is rounded to the nearest double. -/
theorem pack_round_eq (hM : M ≠ 0) (hn : 0 < num) (hd : 0 < den)
    (h : (M * 2 ^ E : ℚ) = num / den) (ho : overflows num den = false) (s : Bool) :
    .ofModel (Float.Model.pack (UnpackedFloat.round Format.binary64 (signOf s) M E)) =
      ofQuotient s num den := by
  obtain ⟨m, q, hround, hformat, hvalue⟩ := round_spec hM hn hd h s
  obtain ⟨m', q', hexact, hvalue'⟩ := exists_exact_ofQuotient hn hd ho s
  have hc := canonical_exact (ofQuotient s num den)
  rw [hexact] at hc
  obtain ⟨rfl, rfl⟩ := hformat.unique (inFormat_of_canonical hc) (hvalue.trans hvalue'.symm)
  rw [hround]
  exact exact_injective ((exact_pack hc).trans hexact.symm)

end Round

/-! ## Sums -/

section Sums

variable {x y : Float} {v w : ℚ} {num den : ℕ} {s : Bool}

theorem ne_zero_of_quotient_eq {c : ℕ} {u : ℚ} (hn : 0 < num) (hd : 0 < den)
    (h : (num : ℚ) * (den : ℚ)⁻¹ = c * u) : c ≠ 0 := by
  rintro rfl
  rw [Nat.cast_zero, Rat.zero_mul] at h
  have : (0 : ℚ) < num * (den : ℚ)⁻¹ := by positivity
  exact this.ne' h

/-- A double is the one nearest to its value. -/
theorem HasValue.eq_ofQuotient (hx : HasValue x v) (hn : 0 < num) (hd : 0 < den)
    (h : v = withSign s num / den) : x = ofQuotient s num den := by
  obtain ⟨t, m, q, hexact, rfl⟩ := hx
  have hc := canonical_exact x
  rw [hexact] at hc
  rw [div_eq_mul_inv] at h
  obtain ⟨rfl, hvalue⟩ := eq_of_withSign_mul_eq hn.ne' (by positivity) (two_zpow_pos q).le h.symm
  have hm := ne_zero_of_quotient_eq hn hd hvalue
  have hround := roundsTo_self m q
  rw [← hvalue, ← div_eq_mul_inv] at hround
  exact exact_injective (hexact.trans (hround.exact_ofQuotient hc hm hd).symm)

/-- A sum that does not overflow is the double nearest to the exact sum. -/
theorem add_eq_ofQuotient (hx : HasValue x v) (hy : HasValue y w) (hn : 0 < num) (hd : 0 < den)
    (h : v + w = withSign s num / den) (ho : overflows num den = false) :
    x + y = ofQuotient s num den := by
  obtain ⟨rfl, rfl, -⟩ | ⟨rfl, hz⟩ | ⟨rfl, hz⟩ | ⟨K, E, hsum, hz⟩ := hx.add_cases hy
  · have : (withSign s num : ℚ) / den ≠ 0 :=
      div_ne_zero (by cases s <;> simpa [withSign] using hn.ne') (by exact_mod_cast hd.ne')
    exact absurd (h.symm.trans (Rat.zero_add 0)) this
  · rw [hz]
    exact hy.eq_ofQuotient hn hd ((Rat.zero_add w).symm.trans h)
  · rw [hz]
    exact hx.eq_ofQuotient hn hd ((Rat.add_zero v).symm.trans h)
  · obtain ⟨t, c, rfl⟩ : ∃ t c, K = withSign t c := ⟨_, _, (Number.withSign_natAbs K).symm⟩
    rw [hsum, div_eq_mul_inv] at h
    obtain ⟨rfl, hvalue⟩ := eq_of_withSign_mul_eq hn.ne' (by positivity) (two_zpow_pos E).le h.symm
    have hc := ne_zero_of_quotient_eq hn hd hvalue
    rw [← div_eq_mul_inv] at hvalue
    rw [hz, withSign_eq_apply, normalize_apply _ (Nat.pos_of_ne_zero hc),
      pack_round_eq hc hn hd hvalue.symm ho]

/-- So its value is the rounded one. -/
theorem HasValue.add_rounded (hx : HasValue x v) (hy : HasValue y w) (hn : 0 < num) (hd : 0 < den)
    (h : v + w = withSign s num / den) (ho : overflows num den = false) :
    HasValue (x + y) (withSign s (quotientMantissa num den) * 2 ^ quotientExponent num den) := by
  rw [add_eq_ofQuotient hx hy hn hd h ho]
  obtain ⟨m, q, hexact, hvalue⟩ := exists_exact_ofQuotient hn hd ho s
  exact ⟨s, m, q, hexact, (withSign_value_eq s hvalue).symm⟩

/-- The floor of a double is that of its value. -/
theorem HasValue.floor_eq (hx : HasValue x v) : (Number.real x).floor = .ok ⌊v⌋ := by
  obtain ⟨s, m, q, hexact, rfl⟩ := hx
  show Number.integerPart floorScaled x = _
  rw [Number.integerPart, hexact]
  exact congrArg Except.ok (eq_of_forall_le_iff fun n => le_floorScaled_iff.trans Int.le_floor.symm)

end Sums

end TokenFormula.Double
