import TokenFormula.Proofs.Number.Quotient
import TokenFormula.Proofs.Number.Normal

/-!
# Arithmetic without rounding

A rational with at most 53 binary digits is a double, and an operation on doubles
whose exact result is such a rational gives this result.

Results:
* `HasValue`: a finite double and the rational that it equals.
* `round_eq`: a representable value is rounded to itself.
* `HasValue.add`, `HasValue.sub`, `HasValue.mul`: operations with a representable
  result.
-/

namespace TokenFormula.Double

open Float.Model Float.Model.UnpackedFloat

/-- The double is finite and equals the rational. -/
def HasValue (x : Float) (v : ℚ) : Prop :=
  ∃ s m q, exact x = .finite s m q ∧ v = withSign s m * 2 ^ q

/-- The rational has at most 53 binary digits, in the range of the doubles. -/
def Representable (v : ℚ) : Prop :=
  ∃ k q : ℤ, v = k * 2 ^ q ∧ k.natAbs ≤ 2 ^ 53 ∧ -1074 ≤ q ∧ q ≤ 970

/-! ## Canonical forms -/

theorem mul_two_zpow_sub (a j : ℕ) (q : ℤ) :
    ((a * 2 ^ j : ℕ) : ℚ) * 2 ^ (q - j) = a * 2 ^ q := by
  rw [Nat.cast_mul, mul_assoc, two_pow_mul_zpow, add_sub_cancel]

/-- A natural with at most 53 digits is brought to the exponent of a double. -/
theorem exists_canonical {a : ℕ} {q : ℤ} (ha : a ≤ 2 ^ 53) (hq : -1074 ≤ q) (hq' : q ≤ 970)
    (s : Bool) : ∃ m q', (Exact.finite s m q').Canonical ∧ (m : ℚ) * 2 ^ q' = a * 2 ^ q := by
  rcases Nat.eq_zero_or_pos a with rfl | hpos
  · exact ⟨0, -1074, .inl ⟨by decide, rfl⟩, by simp⟩
  rcases ha.lt_or_eq with ha | rfl
  · have hlow := Nat.log2_self_le hpos.ne'
    have hhigh : a < 2 ^ (a.log2 + 1) := Nat.lt_log2_self
    have hlog : a.log2 < 53 := (Nat.log2_lt hpos.ne').mpr ha
    obtain ⟨j, hj⟩ : ∃ j, j = min (52 - a.log2) (q + 1074).toNat := ⟨_, rfl⟩
    refine ⟨a * 2 ^ j, q - j, ?_, mul_two_zpow_sub a j q⟩
    by_cases hnormal : j = 52 - a.log2
    · right
      have h52 : 2 ^ 52 ≤ a * 2 ^ j := calc
        2 ^ 52 = 2 ^ a.log2 * 2 ^ j := by rw [← Nat.pow_add]; congr 1; omega
        _ ≤ a * 2 ^ j := Nat.mul_le_mul_right _ hlow
      have h53 : a * 2 ^ j < 2 ^ 53 := calc
        a * 2 ^ j < 2 ^ (a.log2 + 1) * 2 ^ j :=
            Nat.mul_lt_mul_of_pos_right hhigh (Nat.two_pow_pos j)
        _ = 2 ^ 53 := by rw [← Nat.pow_add]; congr 1; omega
      omega
    · left
      have h52 : a * 2 ^ j < 2 ^ 52 := calc
        a * 2 ^ j < 2 ^ (a.log2 + 1) * 2 ^ j :=
            Nat.mul_lt_mul_of_pos_right hhigh (Nat.two_pow_pos j)
        _ = 2 ^ (a.log2 + 1 + j) := (Nat.pow_add ..).symm
        _ ≤ 2 ^ 52 := Nat.pow_le_pow_right (by decide) (by omega)
      omega
  · refine ⟨2 ^ 52, q + 1, .inr (by omega), ?_⟩
    have h := mul_two_zpow_sub (2 ^ 52) 1 (q + 1)
    rw [← h]
    norm_num

theorem withSign_value_eq (s : Bool) {m a : ℕ} {q q' : ℤ} (h : (m : ℚ) * 2 ^ q' = a * 2 ^ q) :
    (withSign s m : ℚ) * 2 ^ q' = withSign s a * 2 ^ q := by
  cases s with
  | false => exact_mod_cast h
  | true =>
    simp only [withSign, if_true, Int.cast_neg, Int.cast_natCast, neg_mul, h]

/-- The signs and the magnitudes of equal values are equal. -/
theorem eq_of_withSign_mul_eq {s t : Bool} {m a : ℕ} {u v : ℚ} (ha : a ≠ 0) (hu : 0 < u)
    (hv : 0 ≤ v) (h : (withSign t a : ℚ) * u = withSign s m * v) :
    t = s ∧ (a : ℚ) * u = m * v := by
  have hpos : (0 : ℚ) < a * u := mul_pos (by exact_mod_cast Nat.pos_of_ne_zero ha) hu
  have hnonneg : (0 : ℚ) ≤ m * v := mul_nonneg (Nat.cast_nonneg m) hv
  cases s <;> cases t <;>
    simp only [withSign, Bool.false_eq_true, if_true, if_false, Int.cast_neg, Int.cast_natCast,
      neg_mul] at h
  · exact ⟨rfl, h⟩
  · linarith
  · linarith
  · exact ⟨rfl, neg_inj.mp h⟩

theorem eq_of_withSign_value_eq {s t : Bool} {m a : ℕ} {q q' : ℤ} (ha : a ≠ 0)
    (h : (withSign t a : ℚ) * 2 ^ q' = withSign s m * 2 ^ q) :
    t = s ∧ (a : ℚ) * 2 ^ q' = m * 2 ^ q :=
  eq_of_withSign_mul_eq ha (two_zpow_pos q') (two_zpow_pos q).le h

theorem Representable.exists_canonical {v : ℚ} (h : Representable v) :
    ∃ s m q, (Exact.finite s m q).Canonical ∧ v = withSign s m * 2 ^ q := by
  obtain ⟨k, q, rfl, hk, hq, hq'⟩ := h
  obtain ⟨m, q', hc, hm⟩ := Double.exists_canonical hk hq hq' (decide (k < 0))
  refine ⟨_, m, q', hc, ?_⟩
  rw [withSign_value_eq _ hm, Number.withSign_natAbs]

theorem hasValue_pack {s : Bool} {m : ℕ} {q : ℤ} (hc : (Exact.finite s m q).Canonical) :
    HasValue (.ofModel (Float.Model.pack (Exact.finite s m q).unpacked)) (withSign s m * 2 ^ q) :=
  ⟨s, m, q, exact_pack hc, rfl⟩

/-! ## Rounding a representable value -/

section Round

variable {s : Bool} {M m : ℕ} {E q : ℤ}

/-- Equal values differ by a shift. -/
theorem eq_mul_pow_of_value_eq (h : (M : ℚ) * 2 ^ E = m * 2 ^ q) (hE : E ≤ q) :
    ∃ j : ℕ, M = m * 2 ^ j ∧ E = q - j := by
  obtain ⟨j, hj⟩ : ∃ j : ℕ, q = E + j := ⟨(q - E).toNat, by omega⟩
  refine ⟨j, ?_, by omega⟩
  rw [hj, zpow_add₀ (by norm_num), zpow_natCast, mul_comm ((2 : ℚ) ^ E), ← mul_assoc] at h
  have := mul_right_cancel₀ (two_zpow_pos E).ne' h
  exact_mod_cast this

theorem totalExponent_eq_of_value_eq (hM : M ≠ 0) (hm : m ≠ 0)
    (h : (M : ℚ) * 2 ^ E = m * 2 ^ q) : totalExponent M E = totalExponent m q := by
  rcases le_total E q with hE | hE
  · obtain ⟨j, rfl, rfl⟩ := eq_mul_pow_of_value_eq h hE
    exact totalExponent_mul_pow hm q j
  · obtain ⟨j, rfl, rfl⟩ := eq_mul_pow_of_value_eq h.symm hE
    exact (totalExponent_mul_pow hM E j).symm

/-- A representable value is rounded to itself. -/
theorem roundWithAccuracy_eq (hm : m ≠ 0) (hc : (Exact.finite s m q).Canonical) (hE : E ≤ q)
    (h : (M : ℚ) * 2 ^ E = m * 2 ^ q) :
    roundWithAccuracy Format.binary64 (signOf s) M E .exact = (Exact.finite s m q).unpacked := by
  obtain ⟨j, rfl, rfl⟩ := eq_mul_pow_of_value_eq h hE
  have ht := targetExponent_of_canonical hm hc
  rw [roundWithAccuracy_mul_pow hm ht.ge, roundWithAccuracy_self (Nat.pos_of_ne_zero hm) ht,
    Exact.unpacked_finite hm]

theorem round_eq (hM : M ≠ 0) (hm : m ≠ 0) (hc : (Exact.finite s m q).Canonical)
    (h : (M : ℚ) * 2 ^ E = m * 2 ^ q) :
    UnpackedFloat.round Format.binary64 (signOf s) M E = (Exact.finite s m q).unpacked := by
  have ht := targetExponent_of_canonical hm hc
  unfold UnpackedFloat.round
  rw [totalExponent_eq_of_value_eq hM hm h, ht]
  unfold decreaseExponent
  dsimp only
  rw [Nat.shiftLeft_eq]
  refine roundWithAccuracy_eq hm hc (by omega) ?_
  rw [mul_two_zpow_sub, h]

theorem withSign_eq_apply (s : Bool) (m : ℕ) : withSign s m = (signOf s).apply m := by
  cases s <;> rfl

/-- So is an integer with an exponent. -/
theorem exists_normalize {K E : ℤ} (h : Representable (K * 2 ^ E)) :
    ∃ s m q, (Exact.finite s m q).Canonical ∧ (K * 2 ^ E : ℚ) = withSign s m * 2 ^ q ∧
      UnpackedFloat.normalize Format.binary64 K E .positive = (Exact.finite s m q).unpacked := by
  by_cases hK : K = 0
  · subst hK
    exact ⟨false, 0, -1074, .inl ⟨by decide, rfl⟩, by simp [withSign], rfl⟩
  obtain ⟨s, m, q, hc, hv⟩ := h.exists_canonical
  refine ⟨s, m, q, hc, hv, ?_⟩
  have hM : K.natAbs ≠ 0 := Int.natAbs_ne_zero.mpr hK
  rw [← Number.withSign_natAbs K] at hv ⊢
  obtain ⟨rfl, hvalue⟩ := eq_of_withSign_value_eq hM hv
  have hm : m ≠ 0 := by
    rintro rfl
    rw [Nat.cast_zero, zero_mul] at hvalue
    exact hM (by exact_mod_cast (mul_eq_zero.mp hvalue).resolve_right (two_zpow_pos E).ne')
  rw [withSign_eq_apply, normalize_apply _ (Nat.pos_of_ne_zero hM), round_eq hM hm hc hvalue]

end Round

/-! ## Operations -/

section Operations

variable {x y : Float} {v w : ℚ}

/-- A double with a value is a zero or has a mantissa. -/
theorem HasValue.cases (h : HasValue x v) :
    (v = 0 ∧ ∃ s, (exact x).unpacked = .zero (signOf s)) ∨
    ∃ s m q, ∃ hm : m ≠ 0, (Exact.finite s m q).Canonical ∧ v = withSign s m * 2 ^ q ∧
      (exact x).unpacked = .finite (signOf s) m q (Nat.pos_of_ne_zero hm) := by
  obtain ⟨s, m, q, hx, rfl⟩ := h
  have hc := canonical_exact x
  rw [hx] at hc ⊢
  by_cases hm : m = 0
  · subst hm
    exact .inl ⟨by cases s <;> simp [withSign], s, by rw [Exact.unpacked, dif_pos rfl]⟩
  · exact .inr ⟨s, m, q, hm, hc, rfl, Exact.unpacked_finite hm⟩

theorem hasValue_zero (s : Sign) :
    HasValue (.ofModel (Float.Model.pack (.zero s))) 0 := by
  have hc : ∀ t, (Exact.finite t 0 (-1074)).Canonical := fun _ => .inl ⟨by decide, rfl⟩
  cases s with
  | negative => exact ⟨true, 0, -1074, exact_pack (hc true), by simp [withSign]⟩
  | positive => exact ⟨false, 0, -1074, exact_pack (hc false), by simp [withSign]⟩

theorem add_zeros (s t : Sign) :
    ∃ u, UnpackedFloat.add Format.binary64 (.zero s) (.zero t) = .zero u := by
  unfold UnpackedFloat.add
  dsimp only
  split <;> exact ⟨_, rfl⟩

/-- The sum of integers that are brought to a common exponent. -/
theorem apply_shift (s : Bool) (m : ℕ) {q E : ℤ} (hE : E ≤ q) :
    (((signOf s).apply (decreaseExponent m q E).1 : ℤ) : ℚ) * 2 ^ E = withSign s m * 2 ^ q := by
  unfold decreaseExponent
  dsimp only
  rw [Nat.shiftLeft_eq, ← withSign_eq_apply]
  refine withSign_value_eq s ?_
  have h := mul_two_zpow_sub m (q - E).toNat q
  rwa [show q - ((q - E).toNat : ℤ) = E by omega] at h

/-- A sum is that of two zeros, the other operand where one is zero, or an integer that
    is brought into normal form. -/
theorem HasValue.add_cases (hx : HasValue x v) (hy : HasValue y w) :
    (v = 0 ∧ w = 0 ∧ HasValue (x + y) 0) ∨ (v = 0 ∧ x + y = y) ∨ (w = 0 ∧ x + y = x) ∨
      ∃ K E : ℤ, v + w = K * 2 ^ E ∧
        x + y = .ofModel (Float.Model.pack
          (UnpackedFloat.normalize Format.binary64 K E .positive)) := by
  rw [add_eq]
  rcases hx.cases with ⟨rfl, s, hxu⟩ | ⟨s, m, q, hm, -, rfl, hxu⟩
  · rcases hy.cases with ⟨rfl, t, hyu⟩ | ⟨t, k, e, hk, -, -, hyu⟩
    · obtain ⟨u, hu⟩ := add_zeros (signOf s) (signOf t)
      rw [hxu, hyu, hu]
      exact .inl ⟨rfl, rfl, hasValue_zero u⟩
    · have : UnpackedFloat.add Format.binary64 (exact x).unpacked (exact y).unpacked =
          (exact y).unpacked := by
        rw [hxu, hyu]
        rfl
      rw [this, ofModel_pack_exact]
      exact .inr (.inl ⟨rfl, rfl⟩)
  · rcases hy.cases with ⟨rfl, t, hyu⟩ | ⟨t, k, e, hk, -, rfl, hyu⟩
    · have : UnpackedFloat.add Format.binary64 (exact x).unpacked (exact y).unpacked =
          (exact x).unpacked := by
        rw [hxu, hyu]
        rfl
      rw [this, ofModel_pack_exact]
      exact .inr (.inr (.inl ⟨rfl, rfl⟩))
    · refine .inr (.inr (.inr ⟨(signOf s).apply (decreaseExponent m q (min q e)).1 +
        (signOf t).apply (decreaseExponent k e (min q e)).1, min q e, ?_, ?_⟩))
      · rw [Int.cast_add, add_mul, apply_shift s m (min_le_left ..),
          apply_shift t k (min_le_right ..)]
      · rw [hxu, hyu]
        rfl

/-- A sum that is representable is not rounded. -/
theorem HasValue.add (hx : HasValue x v) (hy : HasValue y w) (h : Representable (v + w)) :
    HasValue (x + y) (v + w) := by
  obtain ⟨rfl, rfl, hz⟩ | ⟨rfl, hz⟩ | ⟨rfl, hz⟩ | ⟨K, E, hsum, hz⟩ := hx.add_cases hy
  · rwa [Rat.zero_add]
  · rwa [Rat.zero_add, hz]
  · rwa [Rat.add_zero, hz]
  · rw [hsum] at h ⊢
    obtain ⟨u, n, p, hc, hv, hn⟩ := exists_normalize h
    rw [hz, hn, hv]
    exact hasValue_pack hc

/-- A difference is the sum with the negation. -/
theorem sub_eq (x y : Float) : x - y = x + negate y := by
  have hsub : ∀ a b : UnpackedFloat, UnpackedFloat.sub Format.binary64 a b =
      UnpackedFloat.add Format.binary64 a b.neg := by
    intro a b
    cases a <;> cases b <;> try rfl
    rename_i s m q hm t k e hk
    have happly : ∀ a b : ℕ, s.apply a - t.apply b = s.apply a + (-t).apply b := by
      intro a b
      cases t with
      | positive => exact sub_eq_add_neg ..
      | negative => exact sub_neg_eq_add ..
    exact congrArg (UnpackedFloat.normalize _ · _ _) (happly _ _)
  rw [add_eq, exact_negate, Exact.unpacked_neg, ← hsub, ← unpack_eq, ← unpack_eq]
  rfl

theorem HasValue.negate (hy : HasValue y w) : HasValue (Double.negate y) (-w) := by
  obtain ⟨s, m, q, hy, rfl⟩ := hy
  refine ⟨!s, m, q, by rw [exact_negate, hy]; rfl, ?_⟩
  rw [Number.withSign_not, Int.cast_neg, neg_mul]

/-- Nor is such a difference. -/
theorem HasValue.sub (hx : HasValue x v) (hy : HasValue y w) (h : Representable (v - w)) :
    HasValue (x - y) (v - w) := by
  rw [sub_eq_add_neg] at h ⊢
  rw [sub_eq]
  exact hx.add hy.negate h

theorem withSign_mul_withSign (s t : Bool) (m k : ℕ) :
    withSign s m * withSign t k = withSign (s != t) (m * k) := by
  cases s <;> cases t <;> simp [withSign]

theorem signOf_mul (s t : Bool) : signOf s * signOf t = signOf (s != t) := by
  cases s <;> cases t <;> rfl

/-- Nor is such a product. -/
theorem HasValue.mul (hx : HasValue x v) (hy : HasValue y w) (h : Representable (v * w)) :
    HasValue (x * y) (v * w) := by
  rw [mul_eq]
  rcases hx.cases with ⟨rfl, s, hxu⟩ | ⟨s, m, q, hm, hmc, rfl, hxu⟩
  · rw [Rat.zero_mul, hxu]
    rcases hy.cases with ⟨-, t, hyu⟩ | ⟨t, k, e, hk, -, -, hyu⟩
    · rw [hyu]; exact hasValue_zero _
    · rw [hyu]; exact hasValue_zero _
  · rcases hy.cases with ⟨rfl, t, hyu⟩ | ⟨t, k, e, hk, hkc, rfl, hyu⟩
    · rw [Rat.mul_zero, hxu, hyu]
      exact hasValue_zero _
    · have hprod : (withSign s m * 2 ^ q * (withSign t k * 2 ^ e) : ℚ) =
          withSign (s != t) (m * k) * 2 ^ (q + e) := by
        rw [← withSign_mul_withSign, Int.cast_mul, zpow_add₀ (by norm_num)]
        ring
      rw [hprod] at h ⊢
      obtain ⟨u, n, p, hc, hv⟩ := h.exists_canonical
      obtain ⟨rfl, hvalue⟩ := eq_of_withSign_value_eq (Nat.mul_ne_zero hm hk) hv
      have hn : n ≠ 0 := by
        rintro rfl
        rw [Nat.cast_zero, Rat.zero_mul] at hvalue
        have := (mul_eq_zero.mp hvalue).resolve_right (two_zpow_pos _).ne'
        exact Nat.mul_ne_zero hm hk (by exact_mod_cast this)
      -- The result has no digits below those of the product, unless both are subnormal.
      have hE : q + e ≤ p := by
        by_contra hlt
        obtain ⟨j, hj, hp⟩ := eq_mul_pow_of_value_eq hvalue.symm (by omega)
        have h2 : 2 ≤ 2 ^ j := Nat.le_self_pow (by omega) 2
        have hn53 : m * k * 2 ^ j < 2 ^ 53 := by
          rw [← hj]
          obtain ⟨h52, -⟩ | ⟨-, h53, -⟩ := hc <;> omega
        have hsmall : ∀ a b : ℕ, b ≠ 0 → a * b * 2 ^ j < 2 ^ 53 → a < 2 ^ 52 := by
          intro a b hb hlt
          have h1 : a * 1 * 2 ≤ a * b * 2 ^ j :=
            Nat.mul_le_mul (Nat.mul_le_mul_left a (Nat.one_le_iff_ne_zero.mpr hb)) h2
          omega
        have hm52 := hsmall m k hk hn53
        have hk52 := hsmall k m hm (by rwa [Nat.mul_comm k m])
        obtain ⟨-, rfl⟩ | ⟨h52, -⟩ := hmc
        · obtain ⟨-, rfl⟩ | ⟨h52, -⟩ := hkc
          · obtain ⟨-, rfl⟩ | ⟨-, -, hp, -⟩ := hc <;> omega
          · omega
        · omega
      have hmul : UnpackedFloat.mul Format.binary64
          (.finite (signOf s) m q (Nat.pos_of_ne_zero hm))
          (.finite (signOf t) k e (Nat.pos_of_ne_zero hk)) =
            (Exact.finite (s != t) n p).unpacked := by
        rw [← roundWithAccuracy_eq hn hc hE hvalue, ← signOf_mul]
        rfl
      rw [hv, hxu, hyu, hmul]
      exact hasValue_pack hc

end Operations

end TokenFormula.Double
