import Mathlib.Analysis.SpecialFunctions.Pow.Real
import TokenFormula.Number.Power
import TokenFormula.Proofs.Number.HalfUp

/-!
# Powers of doubles

The power of two finite doubles is the double nearest to the real power, as far as the
platform rounds correctly. So it is an infinity exactly where the real power is beyond
the largest double by half a step at least. A number other than one keeps a distance from
one, so that an exponent beyond the largest double makes its power too large or too
small.

Results:
* `IsNearest`, `IsNearest.isInfinite_iff`: the double nearest to a real number.
* `overflowLimit_le_rpow_iff`: powers with an exponent beyond the largest double.
* `power_spec`: what a power of finite doubles is.
* `Number.HasValue.away_from_one`: the distance from one.
* `Number.HasValue.toReal_cases`: the numbers to which a double is near.
-/

namespace TokenFormula.Double

/-! ## Nearest doubles -/

/-- The double to which a positive real number is rounded: it lies between the midpoints to
    the neighbours, on a midpoint only if the mantissa is even, and what would be beyond the
    largest double is an infinity. -/
def IsNearest (r : ℝ) (x : Float) : Prop :=
  ∃ m q, InFormat m q ∧ exact x = (if q ≤ 971 then .finite false m q else .infinite false) ∧
    ((m - gapBelow m q : ℚ) : ℝ) * 2 ^ q ≤ r ∧ r ≤ (m + 1 / 2) * 2 ^ q ∧
    (r = ((m - gapBelow m q : ℚ) : ℝ) * 2 ^ q ∨ r = (m + 1 / 2) * 2 ^ q → m % 2 = 0)

/-- The limit as a multiple of a power of two, which is not computed. -/
theorem overflowLimit_real {e : ℕ} (he : e = 970) :
    (overflowLimit : ℝ) = (2 ^ 54 - 1) * 2 ^ e := by
  rw [overflowLimit_eq he, Nat.cast_mul, Nat.cast_pow, Nat.cast_ofNat]
  norm_num

/-- What rounds down to a mantissa of the last exponent or below is below the limit. -/
theorem lt_overflowLimit {m : ℕ} {q : ℤ} {r : ℝ} (h : InFormat m q) (hq : q ≤ 971)
    (hr : r ≤ (m + 1 / 2) * 2 ^ q) (heven : r = (m + 1 / 2) * 2 ^ q → m % 2 = 0) :
    r < overflowLimit := by
  obtain ⟨e, he⟩ : ∃ e, e = 970 := ⟨970, rfl⟩
  rw [overflowLimit_real he]
  have hle : (2 : ℝ) ^ q ≤ 2 * 2 ^ e := by
    calc (2 : ℝ) ^ q ≤ 2 ^ ((e + 1 : ℕ) : ℤ) := zpow_le_zpow_right₀ (by norm_num) (by omega)
      _ = 2 * 2 ^ e := by rw [zpow_natCast, pow_succ, mul_comm]
  have hpos : (0 : ℝ) < 2 ^ q := by positivity
  have hp : (0 : ℝ) < 2 ^ e := by positivity
  have hlt := h.lt
  rcases hr.lt_or_eq with hr | hr
  · have hm : (m : ℝ) + 1 / 2 ≤ 2 ^ 53 - 1 / 2 := by
      have : (m : ℝ) + 1 ≤ 2 ^ 53 := by exact_mod_cast hlt
      linarith
    calc r < (m + 1 / 2) * 2 ^ q := hr
      _ ≤ (2 ^ 53 - 1 / 2) * (2 * 2 ^ e) := mul_le_mul hm hle hpos.le (by norm_num)
      _ = (2 ^ 54 - 1) * 2 ^ e := by ring
  · -- The mantissa is even, so not the largest one.
    have hm : (m : ℝ) + 1 / 2 ≤ 2 ^ 53 - 3 / 2 := by
      have := heven hr
      have : (m : ℝ) + 2 ≤ 2 ^ 53 := by exact_mod_cast (by omega : m + 2 ≤ 2 ^ 53)
      linarith
    calc r = (m + 1 / 2) * 2 ^ q := hr
      _ ≤ (2 ^ 53 - 3 / 2) * (2 * 2 ^ e) := mul_le_mul hm hle hpos.le (by norm_num)
      _ < (2 ^ 54 - 1) * 2 ^ e := by linarith

/-- What rounds up to a mantissa beyond the last exponent is not below the limit. -/
theorem overflowLimit_le {m : ℕ} {q : ℤ} {r : ℝ} (h : InFormat m q) (hq : 971 < q)
    (hr : ((m - gapBelow m q : ℚ) : ℝ) * 2 ^ q ≤ r) : (overflowLimit : ℝ) ≤ r := by
  obtain ⟨e, he⟩ : ∃ e, e = 970 := ⟨970, rfl⟩
  rw [overflowLimit_real he]
  have hm : (2 ^ 52 - 1 / 4 : ℝ) ≤ ((m - gapBelow m q : ℚ) : ℝ) := by
    have h52 : 2 ^ 52 ≤ m := h.full.resolve_right (by omega)
    have : (2 ^ 52 - 1 / 4 : ℚ) ≤ m - gapBelow m q := by
      rcases h52.eq_or_lt with rfl | h52
      · rw [gapBelow, if_pos ⟨rfl, by omega⟩]
        norm_num
      · have h52 : ((2 ^ 52 + 1 : ℕ) : ℚ) ≤ m := by exact_mod_cast h52
        have := gapBelow_le m q
        push_cast at h52
        linarith
    have := (Rat.cast_le (K := ℝ)).mpr this
    norm_num at this ⊢
    exact this
  have hle : (4 * 2 ^ e : ℝ) ≤ 2 ^ q := by
    calc (4 * 2 ^ e : ℝ) = 2 ^ ((e + 2 : ℕ) : ℤ) := by rw [zpow_natCast, pow_add]; ring
      _ ≤ 2 ^ q := zpow_le_zpow_right₀ (by norm_num) (by omega)
  calc ((2 ^ 54 - 1) * 2 ^ e : ℝ) = (2 ^ 52 - 1 / 4) * (4 * 2 ^ e) := by ring
    _ ≤ ((m - gapBelow m q : ℚ) : ℝ) * 2 ^ q :=
        mul_le_mul hm hle (by positivity) (le_trans (by norm_num) hm)
    _ ≤ r := hr

/-- The nearest double is an infinity from half a step beyond the largest double on. -/
theorem IsNearest.isInfinite_iff {r : ℝ} {x : Float} (h : IsNearest r x) :
    isInfinite x = true ↔ (overflowLimit : ℝ) ≤ r := by
  obtain ⟨m, q, hformat, hexact, hlow, hhigh, heven⟩ := h
  by_cases hq : q ≤ 971
  · rw [if_pos hq] at hexact
    rw [isInfinite, hexact]
    exact iff_of_false Bool.false_ne_true
      (not_le.mpr (lt_overflowLimit hformat hq hhigh fun hr => heven (.inr hr)))
  · rw [if_neg hq] at hexact
    rw [isInfinite, hexact]
    exact iff_of_true rfl (overflowLimit_le hformat (not_le.mp hq) hlow)

/-! ## Finite doubles -/

section Finite

variable {x : Float} {v : ℚ}

theorem HasValue.unique (h : HasValue x v) {w : ℚ} (h' : HasValue x w) : v = w := by
  obtain ⟨s, m, q, hexact, rfl⟩ := h
  obtain ⟨s', m', q', hexact', rfl⟩ := h'
  rw [hexact] at hexact'
  cases hexact'
  rfl

/-- A finite double is below the limit. -/
theorem HasValue.abs_lt (hx : HasValue x v) : |v| < overflowLimit := by
  obtain ⟨s, m, q, hexact, rfl⟩ := hx
  have hc := canonical_exact x
  rw [hexact] at hc
  have hq : q ≤ 971 := by obtain ⟨-, rfl⟩ | ⟨-, -, -, h⟩ := hc <;> omega
  have hp : (0 : ℝ) < 2 ^ q := by positivity
  have hmid : (m : ℝ) * 2 ^ q < (m + 1 / 2) * 2 ^ q :=
    mul_lt_mul_of_pos_right (by linarith) hp
  have hlt := lt_overflowLimit (inFormat_of_canonical hc) hq hmid.le fun h => absurd h hmid.ne
  rw [abs_withSign, ← Rat.cast_lt (K := ℝ)]
  push_cast
  exact hlt

/-- A double other than one keeps a distance from one. -/
theorem HasValue.away_from_one (hx : HasValue x v) :
    |v| ≤ 1 - 1 / 2 ^ 53 ∨ |v| = 1 ∨ 1 + 1 / 2 ^ 53 ≤ |v| := by
  obtain ⟨s, m, q, hexact, rfl⟩ := hx
  have hc := canonical_exact x
  rw [hexact] at hc
  have hm : (m : ℚ) < 2 ^ 53 := by
    have : m < 2 ^ 53 := by obtain ⟨h, -⟩ | ⟨-, h, -⟩ := hc <;> omega
    exact_mod_cast this
  rw [abs_withSign]
  by_cases hq : q < -53
  · left
    calc (m * 2 ^ q : ℚ) ≤ 2 ^ 53 * 2 ^ (-54 : ℤ) :=
          mul_le_mul hm.le (zpow_le_zpow_right₀ (by norm_num) (by omega)) (two_zpow_pos q).le
            (by norm_num)
      _ ≤ 1 - 1 / 2 ^ 53 := by norm_num
  · -- A multiple of the last place below one.
    obtain ⟨i, rfl⟩ : ∃ i : ℕ, q = i - 53 := ⟨(q + 53).toNat, by omega⟩
    have hvalue : (m * 2 ^ ((i : ℤ) - 53) : ℚ) = (m * 2 ^ i : ℕ) / 2 ^ 53 := by
      rw [zpow_sub₀ (by norm_num), zpow_natCast, ← mul_div_assoc]
      push_cast
      rfl
    rw [hvalue]
    generalize m * 2 ^ i = k
    obtain hk | rfl | hk : k + 1 ≤ 2 ^ 53 ∨ k = 2 ^ 53 ∨ 2 ^ 53 + 1 ≤ k := by omega
    · left
      have hk : (k : ℚ) + 1 ≤ 2 ^ 53 := by exact_mod_cast hk
      rw [div_le_iff₀ (by norm_num)]
      linarith
    · right; left
      norm_num
    · right; right
      have hk : (2 ^ 53 : ℚ) + 1 ≤ k := by exact_mod_cast hk
      rw [le_div_iff₀ (by norm_num)]
      linarith

theorem isNegative_of_exact {s : Bool} {m : ℕ} {q : ℤ} (hx : exact x = .finite s m q) :
    isNegative x = s := by
  unfold exact Exact.ofBits at hx
  dsimp only at hx
  split at hx
  · split at hx <;> cases hx
  · split at hx
    · exact (Exact.finite.inj hx).1
    · exact (Exact.finite.inj hx).1

/-- What the tests of a finite double say of its value. -/
theorem HasValue.tests (hx : HasValue x v) :
    isNaN x = false ∧ isInfinite x = false ∧ (isZero x = true ↔ v = 0) ∧
      (isNegative x = true → v ≤ 0) ∧ (isNegative x = false → 0 ≤ v) := by
  obtain ⟨s, m, q, hexact, rfl⟩ := hx
  have hp := two_zpow_pos q
  have hm : (0 : ℚ) ≤ m * 2 ^ q := mul_nonneg (Nat.cast_nonneg m) hp.le
  refine ⟨by rw [isNaN, hexact]; rfl, by rw [isInfinite, hexact], ?_, ?_, ?_⟩
  · rw [isZero, hexact, ← abs_eq_zero, abs_withSign]
    simp [hp.ne']
  · rw [isNegative_of_exact hexact]
    rintro rfl
    simp only [withSign, if_true, Int.cast_neg, Int.cast_natCast, neg_mul]
    linarith
  · rw [isNegative_of_exact hexact]
    rintro rfl
    simpa [withSign] using hm

/-- The integer that a finite double equals is its value. -/
theorem HasValue.integer?_eq_some_iff (hx : HasValue x v) {n : ℤ} :
    integer? x = some n ↔ v = n := by
  obtain ⟨s, m, q, hexact, rfl⟩ := hx
  have hscale := zpow_eq_div (b := 2) (by norm_num) q
  rw [Nat.cast_ofNat] at hscale
  have hvalue {c : ℕ} : m * 2 ^ q.toNat = c * 2 ^ (-q).toNat ↔ (m * 2 ^ q : ℚ) = c := by
    rw [hscale, ← mul_div_assoc, div_eq_iff (by positivity)]
    exact_mod_cast Iff.rfl
  constructor
  · intro h
    obtain ⟨s', m', q', c, hx, hc, rfl⟩ := Number.exists_of_integer? h
    rw [hexact] at hx
    cases hx
    have := withSign_value_eq s (q := 0) ((hvalue.mp hc).trans (by rw [zpow_zero, Rat.mul_one]))
    rwa [zpow_zero, Rat.mul_one] at this
  · intro h
    have habs : (m * 2 ^ q : ℚ) = n.natAbs := by
      rw [← abs_withSign s, h, ← Int.cast_abs, Int.abs_eq_natAbs, Int.cast_natCast]
    rw [Number.integer?_eq_some hexact (hvalue.mpr habs)]
    congr 1
    have hsign := withSign_value_eq s (q := 0) (habs.trans (by rw [zpow_zero, Rat.mul_one]))
    rw [h, zpow_zero, Rat.mul_one] at hsign
    exact_mod_cast hsign.symm

end Finite

/-! ## Large exponents -/

theorem one_lt_overflowLimit : (1 : ℝ) < overflowLimit := by
  obtain ⟨e, he⟩ : ∃ e, e = 970 := ⟨970, rfl⟩
  rw [overflowLimit_real he]
  have : (1 : ℝ) ≤ 2 ^ e := one_le_pow₀ (by norm_num)
  linarith

theorem le_overflowLimit : (2 ^ 63 : ℝ) ≤ overflowLimit := by
  obtain ⟨e, he⟩ : ∃ e, e = 970 := ⟨970, rfl⟩
  rw [overflowLimit_real he]
  have : (2 ^ 10 : ℝ) ≤ 2 ^ e := pow_le_pow_right₀ (by norm_num) (by omega)
  linarith

/-- A base away from one, with an exponent that is far too large. -/
theorem overflowLimit_le_rpow {r z : ℝ} (hr : 1 + 1 / 2 ^ 53 ≤ r) (hz : 2 ^ 63 ≤ z) :
    (overflowLimit : ℝ) ≤ r ^ z := by
  obtain ⟨e, he⟩ : ∃ e, e = 970 := ⟨970, rfl⟩
  obtain ⟨n, hn⟩ : ∃ n : ℕ, n = 2 ^ 53 := ⟨_, rfl⟩
  have hn' : (n : ℝ) = 2 ^ 53 := by rw [hn]; norm_num
  have hn0 : (0 : ℝ) < n := by rw [hn']; norm_num
  have hr0 : (0 : ℝ) ≤ r := le_trans (by norm_num) hr
  have hstep : (-2 : ℝ) ≤ 1 / n := le_trans (by norm_num) (one_div_pos.mpr hn0).le
  have htwo : (2 : ℝ) ≤ r ^ n := by
    calc (2 : ℝ) = 1 + n * (1 / n) := by rw [mul_one_div_cancel hn0.ne']; norm_num
      _ ≤ (1 + 1 / n) ^ n := one_add_mul_le_pow hstep n
      _ ≤ r ^ n := pow_le_pow_left₀ (by positivity) (by rw [hn']; exact hr) n
  calc (overflowLimit : ℝ) ≤ ((2 ^ (54 + e) : ℕ) : ℝ) := by
        rw [overflowLimit_eq he]
        exact_mod_cast (limit_bounds e).2
    _ = 2 ^ (54 + e) := by push_cast; rfl
    _ ≤ (r ^ n) ^ (54 + e) := pow_le_pow_left₀ (by norm_num) htwo _
    _ = r ^ ((n * (54 + e) : ℕ) : ℝ) := by rw [← pow_mul, Real.rpow_natCast]
    _ ≤ r ^ z := by
        refine Real.rpow_le_rpow_of_exponent_le (le_trans (by norm_num) hr) (le_trans ?_ hz)
        push_cast
        rw [hn', he]
        norm_num

/-- With such an exponent the sides of the base and of the exponent decide. -/
theorem overflowLimit_le_rpow_iff {r z : ℝ} (hr0 : 0 < r)
    (hr : r ≤ 1 - 1 / 2 ^ 53 ∨ r = 1 ∨ 1 + 1 / 2 ^ 53 ≤ r) (hz : 2 ^ 63 ≤ |z|) :
    (overflowLimit : ℝ) ≤ r ^ z ↔ 1 < r ∧ 0 < z ∨ r < 1 ∧ z < 0 := by
  have hone : ∀ {a : ℝ}, a ≤ 1 → ¬(overflowLimit : ℝ) ≤ a := fun ha =>
    not_le.mpr (ha.trans_lt one_lt_overflowLimit)
  rcases hr with hr | rfl | hr
  · have hlt : r < 1 := hr.trans_lt (by norm_num)
    rcases le_total 0 z with h0 | h0
    · exact iff_of_false (hone (Real.rpow_le_one hr0.le hlt.le h0)) (by
        rintro (⟨h, -⟩ | ⟨-, h⟩) <;> linarith)
    · rw [abs_of_nonpos h0] at hz
      refine iff_of_true ?_ (.inr ⟨hlt, by linarith⟩)
      rw [← neg_neg z, Real.rpow_neg hr0.le, ← Real.inv_rpow hr0.le]
      refine overflowLimit_le_rpow ?_ hz
      rw [le_inv_comm₀ (by norm_num) hr0]
      exact hr.trans (by norm_num)
  · rw [Real.one_rpow]
    exact iff_of_false (hone le_rfl) (by rintro (⟨h, -⟩ | ⟨h, -⟩) <;> linarith)
  · have hlt : 1 < r := lt_of_lt_of_le (by norm_num) hr
    rcases le_total 0 z with h0 | h0
    · rw [abs_of_nonneg h0] at hz
      exact iff_of_true (overflowLimit_le_rpow hr hz) (.inl ⟨hlt, by linarith⟩)
    · exact iff_of_false (hone (Real.rpow_le_one_of_one_le_of_nonpos hlt.le h0)) (by
        rintro (⟨-, h⟩ | ⟨h, -⟩) <;> linarith)

/-! ## The power -/

theorem isInfinite_negate (x : Float) : isInfinite (-x) = isInfinite x := by
  have h : exact (-x) = (exact x).neg := exact_negate x
  unfold isInfinite
  rw [h]
  cases exact x <;> rfl

theorem isInfinite_one : isInfinite (ofQuotient false 1 1) = false := by
  rw [isInfinite, exact_one]

section Power

variable {pow : Float → Float → Float} {x y : Float} {v w : ℚ}

/-- A positive power is an overflow exactly if the real one is beyond the limit. -/
theorem positivePower_spec {r : ℝ} (h : IsNearest r (pow x y)) :
    positivePower pow x y = .overflow ∧ (overflowLimit : ℝ) ≤ r ∨
    positivePower pow x y = .value (pow x y) ∧ isInfinite (pow x y) = false ∧
      r < overflowLimit := by
  have hiff := h.isInfinite_iff
  unfold positivePower
  dsimp only
  cases hinf : isInfinite (pow x y) with
  | true => exact .inl ⟨rfl, hiff.mp hinf⟩
  | false => exact .inr ⟨rfl, rfl, not_le.mp fun hle => by simp [hiff.mpr hle] at hinf⟩

/-- The power of two finite doubles: the pole of zero, an overflow exactly if the real power of
    the magnitude is beyond the limit, and else a finite double or no real number. -/
theorem power_spec (hx : HasValue x v) (hy : HasValue y w)
    (hpow : v ≠ 0 → IsNearest (((|v| : ℚ) : ℝ) ^ (w : ℝ)) (pow (magnitude x) y)) :
    power pow x y = .pole ∧ v = 0 ∧ w < 0 ∨
    power pow x y = .overflow ∧ v ≠ 0 ∧ (overflowLimit : ℝ) ≤ ((|v| : ℚ) : ℝ) ^ (w : ℝ) ∨
    (power pow x y = .notReal ∨ ∃ r, power pow x y = .value r ∧ isInfinite r = false) ∧
      ¬(v = 0 ∧ w < 0) ∧ ((|v| : ℚ) : ℝ) ^ (w : ℝ) < overflowLimit := by
  obtain ⟨hxnan, hxinf, hxzero, -, -⟩ := hx.tests
  obtain ⟨hynan, hyinf, hyzero, hyneg, hypos⟩ := hy.tests
  unfold power
  simp only [hxnan, hynan, hxinf, hyinf, Bool.false_eq_true, if_false]
  by_cases hw : w = 0
  · rw [if_pos (hyzero.mpr hw), hw, Rat.cast_zero, Real.rpow_zero]
    exact .inr (.inr ⟨.inr ⟨_, rfl, isInfinite_one⟩, fun h => lt_irrefl _ h.2,
      one_lt_overflowLimit⟩)
  rw [if_neg (mt hyzero.mp hw)]
  by_cases hv : v = 0
  · rw [if_pos (hxzero.mpr hv), hv, abs_zero, Rat.cast_zero,
      Real.zero_rpow (Rat.cast_ne_zero.mpr hw)]
    cases hsign : isNegative y with
    | true => exact .inl ⟨rfl, rfl, lt_of_le_of_ne (hyneg hsign) hw⟩
    | false =>
      refine .inr (.inr ⟨.inr ⟨_, rfl, ?_⟩, fun h => absurd (hypos hsign) (not_le.mpr h.2),
        zero_lt_one.trans one_lt_overflowLimit⟩)
      split
      · exact hxinf
      · rw [isInfinite, exact_zero]
  rw [if_neg (mt hxzero.mp hv)]
  have hpositive := positivePower_spec (hpow hv)
  have hpole : ¬(v = 0 ∧ w < 0) := fun h => hv h.1
  cases hsign : isNegative x with
  | true =>
    rw [magnitude, if_pos hsign] at hpositive
    rw [if_pos rfl]
    obtain ⟨h, hr⟩ | ⟨h, hfinite, hr⟩ := hpositive
    · rw [h]
      exact .inr (.inl ⟨rfl, hv, hr⟩)
    · rw [h]
      refine .inr (.inr ⟨?_, hpole, hr⟩)
      cases integer? y with
      | none => exact .inl rfl
      | some n =>
        refine .inr ⟨_, rfl, ?_⟩
        split
        · rw [isInfinite_negate, hfinite]
        · exact hfinite
  | false =>
    rw [magnitude, if_neg (by rw [hsign]; exact Bool.false_ne_true)] at hpositive
    obtain ⟨h, hr⟩ | ⟨h, hfinite, hr⟩ := hpositive
    · exact .inr (.inl ⟨h, hv, hr⟩)
    · exact .inr (.inr ⟨.inr ⟨_, h, hfinite⟩, hpole, hr⟩)

end Power

end TokenFormula.Double

namespace TokenFormula.Number

open Double (overflowLimit)

variable {a : Number} {v : ℚ}

theorem HasValue.away_from_one (ha : a.HasValue v) :
    |v| ≤ 1 - 1 / 2 ^ 53 ∨ |v| = 1 ∨ 1 + 1 / 2 ^ 53 ≤ |v| := by
  cases a with
  | real x => exact Double.HasValue.away_from_one ha
  | int k =>
    obtain rfl : v = k := ha
    rw [← Int.cast_abs]
    obtain hk | hk | hk : |k| ≤ 0 ∨ |k| = 1 ∨ 2 ≤ |k| := by omega
    · exact .inl (le_trans (Int.cast_le.mpr hk) (by norm_num))
    · exact .inr (.inl (by rw [hk, Int.cast_one]))
    · exact .inr (.inr (le_trans (by norm_num) (Int.cast_le.mpr hk)))

theorem sign_withSign {k : ℤ} (hk : k ≠ 0) {m : ℕ} {q : ℤ} (h : (0 : ℚ) < m * 2 ^ q) :
    ((Double.withSign (k < 0) m * 2 ^ q : ℚ) = 0 ↔ (k : ℚ) = 0) ∧
      ((Double.withSign (k < 0) m * 2 ^ q : ℚ) < 0 ↔ (k : ℚ) < 0) := by
  have hk' : (k : ℚ) ≠ 0 := Int.cast_ne_zero.mpr hk
  by_cases hneg : k < 0
  · have hw : (Double.withSign (k < 0) m * 2 ^ q : ℚ) = -(m * 2 ^ q) := by
      simp [Double.withSign, hneg]
    rw [hw]
    exact ⟨iff_of_false (by linarith) hk', iff_of_true (by linarith) (Int.cast_lt_zero.mpr hneg)⟩
  · have hw : (Double.withSign (k < 0) m * 2 ^ q : ℚ) = m * 2 ^ q := by
      simp [Double.withSign, hneg]
    rw [hw]
    exact ⟨iff_of_false (by linarith) hk',
      iff_of_false (by linarith) fun h => hneg (Int.cast_lt_zero.mp h)⟩

/-- A number below the limit converts to a finite double with its sign, and no other one does. -/
theorem HasValue.toReal_cases (ha : a.HasValue v) :
    (∃ x w, a.toReal = .ok x ∧ Double.HasValue x w ∧ |v| < overflowLimit ∧ (w = 0 ↔ v = 0) ∧
      (w < 0 ↔ v < 0)) ∨
    a.toReal = .error .integerTooLarge ∧ (overflowLimit : ℚ) ≤ |v| := by
  cases a with
  | real x => exact .inl ⟨x, v, rfl, ha, Double.HasValue.abs_lt ha, Iff.rfl, Iff.rfl⟩
  | int k =>
    obtain rfl : v = k := ha
    have habs : |(k : ℚ)| = (k.natAbs : ℕ) := by
      rw [← Int.cast_abs, Int.abs_eq_natAbs, Int.cast_natCast]
    have hiff := Double.overflows_one_iff k.natAbs
    rw [habs]
    unfold toReal Double.ofInt?
    dsimp only
    cases ho : Double.overflows k.natAbs 1 with
    | true => exact .inr ⟨rfl, by exact_mod_cast hiff.mp ho⟩
    | false =>
      have hlt : k.natAbs < overflowLimit := not_le.mp fun hle => by simp [hiff.mpr hle] at ho
      refine .inl ⟨Double.ofQuotient (k < 0) k.natAbs 1, ?_⟩
      by_cases hk : k = 0
      · subst hk
        refine ⟨0, rfl, ⟨false, 0, -1074, Double.exact_zero, by simp [Double.withSign]⟩, ?_⟩
        exact ⟨by exact_mod_cast hlt, by simp, by simp⟩
      · have hpos : 0 < k.natAbs := Int.natAbs_pos.mpr hk
        obtain ⟨m, q, hexact, hvalue⟩ :=
          Double.exists_exact_ofQuotient hpos Nat.one_pos ho (k < 0)
        have hone := Double.le_rounded (n := 1) hpos Nat.one_pos (by norm_num) (by omega)
        rw [← hvalue, Nat.cast_one] at hone
        exact ⟨_, rfl, ⟨_, m, q, hexact, rfl⟩, by exact_mod_cast hlt,
          sign_withSign hk (zero_lt_one.trans_le hone)⟩

end TokenFormula.Number
