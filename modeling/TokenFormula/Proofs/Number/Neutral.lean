import TokenFormula.Proofs.Number.Exact

/-!
# Operations that give an operand back

Results:
* `add_zero`, `zero_add`, `mul_one`, `one_mul`: neutral operands of doubles.
* `two_mul`: doubling is adding a double to itself.
-/

namespace TokenFormula.Double

open Float.Model Float.Model.UnpackedFloat

/-! ## Operations on exact values -/

theorem add_eq (x y : Float) : x + y =
    .ofModel (Float.Model.pack
      (UnpackedFloat.add Format.binary64 (exact x).unpacked (exact y).unpacked)) := by
  rw [← unpack_eq, ← unpack_eq]
  rfl

theorem mul_eq (x y : Float) : x * y =
    .ofModel (Float.Model.pack
      (UnpackedFloat.mul Format.binary64 (exact x).unpacked (exact y).unpacked)) := by
  rw [← unpack_eq, ← unpack_eq]
  rfl

theorem exact_zero : exact (ofQuotient false 0 1) = .finite false 0 (-1074) := by
  decide

theorem exact_one : exact (ofQuotient false 1 1) = .finite false (2 ^ 52) (-52) := by
  decide

theorem exact_two : exact (ofQuotient false 2 1) = .finite false (2 ^ 52) (-51) := by
  decide

/-! ## Rounding what needs none -/

theorem repeat_add {α : Type} (f : α → α) (a : α) (k j : Nat) :
    Nat.repeat f (k + j) a = Nat.repeat f k (Nat.repeat f j a) := by
  induction k with
  | zero => rw [Nat.zero_add]; rfl
  | succ k ih =>
    rw [Nat.succ_add]
    exact congrArg f ih

theorem repeat_shift (m j : Nat) :
    Nat.repeat ExtendedMantissa.shiftRightOne j ⟨m * 2 ^ j, false, false⟩ =
      ⟨m, false, false⟩ := by
  induction j generalizing m with
  | zero => rw [Nat.pow_zero, Nat.mul_one]; rfl
  | succ j ih =>
    rw [Nat.pow_succ, Nat.mul_comm (2 ^ j) 2, ← Nat.mul_assoc]
    show ExtendedMantissa.shiftRightOne (Nat.repeat _ j _) = _
    rw [ih (m * 2)]
    simp [ExtendedMantissa.shiftRightOne]

/-- Shifting out zeros loses nothing. -/
theorem shift_zeros (m k j : Nat) :
    (⟨m * 2 ^ j, false, false⟩ : ExtendedMantissa) >>> (k + j) =
      (⟨m, false, false⟩ : ExtendedMantissa) >>> k := by
  show Nat.repeat _ (k + j) _ = Nat.repeat _ k _
  rw [repeat_add, repeat_shift]

theorem log2_mul_pow {m : Nat} (h : m ≠ 0) (j : Nat) : (m * 2 ^ j).log2 = m.log2 + j := by
  induction j with
  | zero => rw [Nat.pow_zero, Nat.mul_one, Nat.add_zero]
  | succ j ih =>
    have h2 : m * 2 ^ j ≠ 0 := Nat.mul_ne_zero h (Nat.ne_of_gt (Nat.two_pow_pos j))
    rw [Nat.pow_succ, ← Nat.mul_assoc, Nat.mul_comm (m * 2 ^ j) 2, Nat.log2_two_mul h2, ih]
    omega

theorem totalExponent_mul_pow {m : Nat} (h : m ≠ 0) (e : Int) (j : Nat) :
    totalExponent (m * 2 ^ j) (e - j) = totalExponent m e := by
  unfold totalExponent
  rw [log2_mul_pow h]
  omega

theorem targetExponent_eq (t : Int) :
    Format.binary64.targetExponent t = max (t - 53) (-1074) := by
  unfold Format.targetExponent
  rfl

/-- A mantissa with zeros at its end rounds as without them. -/
theorem roundWithAccuracy_mul_pow {m : Nat} {e : Int} (h : m ≠ 0)
    (he : e ≤ Format.binary64.targetExponent (totalExponent m e)) (s : Sign) (j : Nat) :
    roundWithAccuracy Format.binary64 s (m * 2 ^ j) (e - j) .exact =
      roundWithAccuracy Format.binary64 s m e .exact := by
  have hshift : shiftToTargetExponent Format.binary64 (m * 2 ^ j) (e - j) .exact =
      shiftToTargetExponent Format.binary64 m e .exact := by
    unfold shiftToTargetExponent shiftToExponent
    rw [totalExponent_mul_pow h]
    generalize Format.binary64.targetExponent (totalExponent m e) = t at he
    have hk : (t - (e - j)).toNat = (t - e).toNat + j := by omega
    simp only [ExtendedMantissa.ofMantissaAndAccuracy, hk, shift_zeros, Prod.mk.injEq, true_and]
    omega
  unfold roundWithAccuracy
  rw [hshift]

theorem shiftToTargetExponent_self {m : Nat} {e : Int}
    (he : Format.binary64.targetExponent (totalExponent m e) = e) :
    shiftToTargetExponent Format.binary64 m e .exact = (⟨m, false, false⟩, e) := by
  unfold shiftToTargetExponent shiftToExponent
  rw [he]
  simp only [ExtendedMantissa.ofMantissaAndAccuracy, Int.sub_self, Prod.mk.injEq]
  refine ⟨rfl, ?_⟩
  rw [Int.toNat_zero]
  exact Int.add_zero e

/-- What has the exponent of the format already is not rounded. -/
theorem roundWithAccuracy_self {m : Nat} {e : Int} (h : 0 < m)
    (he : Format.binary64.targetExponent (totalExponent m e) = e) (s : Sign) :
    roundWithAccuracy Format.binary64 s m e .exact = .finite s m e h := by
  unfold roundWithAccuracy
  rw [shiftToTargetExponent_self he]
  show (match shiftToTargetExponent Format.binary64 m e .exact with
    | (em, e') => if h : em.mantissa = 0 then UnpackedFloat.zero s
      else .finite s em.mantissa e' (Nat.pos_of_ne_zero h)) = _
  rw [shiftToTargetExponent_self he]
  exact dif_neg (Nat.ne_of_gt h)

theorem targetExponent_of_canonical {s : Bool} {m : Nat} {q : Int} (h : m ≠ 0)
    (hc : (Exact.finite s m q).Canonical) :
    Format.binary64.targetExponent (totalExponent m q) = q := by
  rw [targetExponent_eq]
  unfold totalExponent
  obtain ⟨hm, rfl⟩ | ⟨hm, hm', hq, -⟩ := hc
  · have := (Nat.log2_lt h).mpr hm
    omega
  · rw [log2_eq hm hm']
    omega

/-! ## Neutral operands -/

theorem eq_ofModel_pack {x : Float} {u : UnpackedFloat} (h : u = (exact x).unpacked) :
    .ofModel (Float.Model.pack u) = x := by
  rw [h, ofModel_pack_exact]

theorem add_positive_zero {v : Exact} (hc : v.Canonical) (h : v ≠ .finite true 0 (-1074)) :
    UnpackedFloat.add Format.binary64 v.unpacked (.zero .positive) = v.unpacked ∧
    UnpackedFloat.add Format.binary64 (.zero .positive) v.unpacked = v.unpacked := by
  cases v with
  | nan => exact ⟨rfl, rfl⟩
  | infinite s => exact ⟨rfl, rfl⟩
  | finite s m q =>
    by_cases hm : m = 0
    · subst hm
      obtain ⟨-, rfl⟩ | ⟨hm, -⟩ := hc
      · cases s
        · exact ⟨rfl, rfl⟩
        · exact absurd rfl h
      · exact absurd hm (by decide)
    · rw [Exact.unpacked_finite hm]
      exact ⟨rfl, rfl⟩

/-- Every double but the negative zero is kept by adding zero. -/
theorem add_zero {x : Float} (h : exact x ≠ .finite true 0 (-1074)) :
    x + ofQuotient false 0 1 = x := by
  rw [add_eq, exact_zero]
  exact eq_ofModel_pack (add_positive_zero (canonical_exact x) h).1

theorem zero_add {x : Float} (h : exact x ≠ .finite true 0 (-1074)) :
    ofQuotient false 0 1 + x = x := by
  rw [add_eq, exact_zero]
  exact eq_ofModel_pack (add_positive_zero (canonical_exact x) h).2

theorem positive_mul (s : Sign) : Sign.positive * s = s := by
  cases s <;> rfl

theorem mul_positive (s : Sign) : s * Sign.positive = s := by
  cases s <;> rfl

theorem mul_positive_one {v : Exact} (hc : v.Canonical) :
    UnpackedFloat.mul Format.binary64 v.unpacked
        (.finite .positive (2 ^ 52) (-52) (Nat.two_pow_pos 52)) = v.unpacked ∧
    UnpackedFloat.mul Format.binary64 (.finite .positive (2 ^ 52) (-52) (Nat.two_pow_pos 52))
        v.unpacked = v.unpacked := by
  cases v with
  | nan => exact ⟨rfl, rfl⟩
  | infinite s => cases s <;> exact ⟨rfl, rfl⟩
  | finite s m q =>
    by_cases hm : m = 0
    · subst hm
      cases s <;> exact ⟨rfl, rfl⟩
    · have ht := targetExponent_of_canonical hm hc
      have hr : roundWithAccuracy Format.binary64 (signOf s) (m * 2 ^ 52) (q - (52 : Nat)) .exact =
          .finite (signOf s) m q (Nat.pos_of_ne_zero hm) := by
        rw [roundWithAccuracy_mul_pow hm (Int.le_of_eq ht.symm) _ 52,
          roundWithAccuracy_self (Nat.pos_of_ne_zero hm) ht]
      rw [Exact.unpacked_finite hm]
      constructor
      · show roundWithAccuracy _ (signOf s * .positive) (m * 2 ^ 52) (q + -52) .exact = _
        rw [mul_positive]
        exact hr
      · show roundWithAccuracy _ (.positive * signOf s) (2 ^ 52 * m) (-52 + q) .exact = _
        rw [positive_mul, Nat.mul_comm, Int.add_comm]
        exact hr

theorem mul_one (x : Float) : x * ofQuotient false 1 1 = x := by
  rw [mul_eq, exact_one]
  exact eq_ofModel_pack (mul_positive_one (canonical_exact x)).1

theorem one_mul (x : Float) : ofQuotient false 1 1 * x = x := by
  rw [mul_eq, exact_one]
  exact eq_ofModel_pack (mul_positive_one (canonical_exact x)).2

/-! ## Doubling -/

theorem normalize_apply (s : Sign) {m : Nat} (h : 0 < m) (e : Int) (zero : Sign) :
    UnpackedFloat.normalize Format.binary64 (s.apply m) e zero =
      round Format.binary64 s m e := by
  unfold UnpackedFloat.normalize
  cases s with
  | positive =>
    have hc : compare (Sign.positive.apply m) 0 = .gt := by
      show compareOfLessAndEq (m : Int) 0 = _
      rw [compareOfLessAndEq, if_neg (by omega), if_neg (by omega)]
    rw [hc]
    rfl
  | negative =>
    have hc : compare (Sign.negative.apply m) 0 = .lt := by
      show compareOfLessAndEq (-(m : Int)) 0 = _
      rw [compareOfLessAndEq, if_pos (by omega)]
    rw [hc]
    show round _ _ (- -(m : Int)).toNat e = _
    rw [Int.neg_neg]
    rfl

theorem apply_add_apply (s : Sign) (m : Nat) : s.apply m + s.apply m = s.apply (m * 2 : Nat) := by
  cases s <;> simp only [Sign.apply] <;> omega

/-- Twice a value rounds from either form to the same. -/
theorem two_mul_unpacked {v : Exact} (hc : v.Canonical) :
    UnpackedFloat.mul Format.binary64 (.finite .positive (2 ^ 52) (-51) (Nat.two_pow_pos 52))
        v.unpacked = UnpackedFloat.add Format.binary64 v.unpacked v.unpacked := by
  cases v with
  | nan => rfl
  | infinite s => cases s <;> rfl
  | finite s m q =>
    by_cases hm : m = 0
    · subst hm
      cases s <;> rfl
    · have ht := targetExponent_of_canonical hm hc
      have hle : q ≤ Format.binary64.targetExponent (totalExponent (m * 2) q) := by
        have h2 := log2_mul_pow hm 1
        rw [targetExponent_eq] at ht ⊢
        unfold totalExponent at ht ⊢
        rw [Nat.pow_one] at h2
        omega
      have hm2 : m * 2 ≠ 0 := by omega
      rw [Exact.unpacked_finite hm]
      show roundWithAccuracy _ (.positive * signOf s) (2 ^ 52 * m) (-51 + q) .exact = _
      have hr := roundWithAccuracy_mul_pow hm2 hle (signOf s) 51
      rw [positive_mul, show 2 ^ 52 * m = m * 2 * 2 ^ 51 by omega, Int.add_comm]
      refine hr.trans ?_
      have hd : decreaseExponent m q (min q q) = (m, q) := by
        unfold decreaseExponent
        rw [Int.min_self, Int.sub_self]
        exact Prod.ext rfl (Int.sub_zero q)
      have hd2 : decreaseExponent (m * 2) q
          (Format.binary64.targetExponent (totalExponent (m * 2) q)) = (m * 2, q) := by
        unfold decreaseExponent
        rw [Int.toNat_of_nonpos (Int.sub_nonpos_of_le hle)]
        exact Prod.ext rfl (Int.sub_zero q)
      show _ = UnpackedFloat.normalize _
        ((signOf s).apply (decreaseExponent m q (min q q)).1 +
          (signOf s).apply (decreaseExponent m q (min q q)).1) (min q q) .positive
      rw [hd, apply_add_apply, Int.min_self, normalize_apply _ (Nat.pos_of_ne_zero hm2)]
      simp only [UnpackedFloat.round, hd2]

theorem two_mul (x : Float) : ofQuotient false 2 1 * x = x + x := by
  rw [mul_eq, add_eq, exact_two]
  exact congrArg _ (congrArg _ (two_mul_unpacked (canonical_exact x)))

end TokenFormula.Double
