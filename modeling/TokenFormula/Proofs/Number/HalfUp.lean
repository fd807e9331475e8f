import TokenFormula.Proofs.Number.Rational
import TokenFormula.Proofs.Number.Sum

/-!
# Rounding halves up

A number is rounded to an integer by the floor of its sum with one half. The sum is
itself rounded to a double, which matters for two kinds of doubles only: the one just
below one half, whose sum is rounded up to one, and the odd integers with 53 digits,
whose sums lie halfway between two doubles and are rounded to the even one above. For
all others the floor of the sum is that of the exact sum.

Results:
* `RoundsPast`: the numbers that are rounded one too high.
* `exists_add_between`: a sum is not rounded across a double.
* `floor_add_half`: the floor of the sum with one half, for every finite double.
* `Number.HasValue.round_spec`: so for the integers below `2^53`.
-/

namespace TokenFormula.Double

/-- The double just below one half, or an odd integer with 53 digits. -/
def RoundsPast (v : ℚ) : Prop :=
  v = 1 / 2 - 1 / 2 ^ 54 ∨ ∃ k : ℤ, v = k ∧ k % 2 = 1 ∧ 2 ^ 52 < k.natAbs ∧ k.natAbs < 2 ^ 53

/-! ## Sums between doubles -/

section Between

variable {num den : ℕ}

theorem quotientExponent_le (hn : 0 < num) (hd : 0 < den) {j : ℤ} (hj : -1074 ≤ j)
    (h : (num / den : ℚ) < 2 ^ (j + 53)) : quotientExponent num den ≤ j := by
  obtain ⟨e, hlow, -, he⟩ := exists_quotientExponent hn hd
  have := two_zpow_lt_iff.mp (hlow.trans_lt h)
  omega

theorem overflows_eq_false (hn : 0 < num) (hd : 0 < den) (h : quotientExponent num den ≤ 970) :
    overflows num den = false := by
  obtain ⟨hq, hm, -⟩ := quotientMantissa_bounds hn hd
  have hbits : quotientBits num den = min ((quotientExponent num den + 1074).toNat * 2 ^ 52 +
      quotientMantissa num den) (2047 * 2 ^ 52) := if_neg hn.ne'
  unfold overflows
  rw [hbits, beq_eq_false_iff_ne]
  omega

/-- A quotient is not rounded up across a double. -/
theorem rounded_le (hd : 0 < den) {b : ℕ} {j : ℤ} (hj : quotientExponent num den ≤ j)
    (h : (num / den : ℚ) ≤ b * 2 ^ j) :
    (quotientMantissa num den * 2 ^ quotientExponent num den : ℚ) ≤ b * 2 ^ j := by
  obtain ⟨i, hi⟩ : ∃ i : ℕ, j = quotientExponent num den + i :=
    ⟨(j - quotientExponent num den).toNat, by omega⟩
  have hp := two_zpow_pos (quotientExponent num den)
  have hb : (b * 2 ^ j : ℚ) = (b * 2 ^ i : ℕ) * 2 ^ quotientExponent num den := by
    rw [hi, zpow_add₀ (by norm_num), zpow_natCast]
    push_cast
    ring
  rw [hb] at h ⊢
  refine mul_le_mul_of_nonneg_right ?_ hp.le
  exact_mod_cast quotientMantissa_le hd ((div_le_iff₀ hp).mpr h)

variable {x y : Float} {v w : ℚ}

theorem exists_quotient {v : ℚ} (h : 0 < v) : ∃ num den : ℕ, 0 < num ∧ 0 < den ∧ v = num / den := by
  refine ⟨v.num.toNat, v.den, ?_, v.den_pos, ?_⟩
  · have := Rat.num_pos.mpr h
    omega
  · have hnum : ((v.num.toNat : ℤ) : ℚ) = v.num := by
      rw [Int.toNat_of_nonneg (Rat.num_pos.mpr h).le]
    rw [← Int.cast_natCast, hnum, Rat.num_div_den]

/-- A positive sum is not rounded across an integer up to `2^53` below it nor across a
    double above it. -/
theorem exists_add_between (hx : HasValue x v) (hy : HasValue y w) (hpos : 0 < v + w)
    {n b : ℕ} {j : ℤ} (hn : n ≤ 2 ^ 53) (hlow : n ≤ v + w) (hj : -1074 ≤ j) (hj' : j ≤ 970)
    (hlt : v + w < 2 ^ (j + 53)) (hhigh : v + w ≤ b * 2 ^ j) :
    ∃ u, HasValue (x + y) u ∧ n ≤ u ∧ u ≤ b * 2 ^ j := by
  obtain ⟨num, den, hnum, hden, hsum⟩ := exists_quotient hpos
  rw [hsum] at hlow hlt hhigh
  have hq := quotientExponent_le hnum hden hj hlt
  have ho := overflows_eq_false hnum hden (hq.trans hj')
  refine ⟨_, hx.add_rounded (s := false) hy hnum hden hsum ho, ?_, rounded_le hden hq hhigh⟩
  refine le_rounded hnum hden hn ?_
  rw [le_div_iff₀ (by exact_mod_cast hden)] at hlow
  exact_mod_cast hlow

variable (num den) in
/-- A sum that rounds to a double is that double. -/
theorem exact_add_of_roundsTo (hx : HasValue x v) (hy : HasValue y w) {s : Bool} {m : ℕ} {q : ℤ}
    (hc : (Exact.finite s m q).Canonical) (hm : m ≠ 0) (hd : 0 < den)
    (h : v + w = withSign s num / den) (hround : RoundsTo m q (num / den)) :
    exact (x + y) = .finite s m q := by
  have hn : 0 < num := by
    have := hround.pos hm
    rw [div_pos_iff_of_pos_right (by exact_mod_cast hd)] at this
    exact_mod_cast this
  rw [add_eq_ofQuotient hx hy hn hd h (hround.overflows_eq_false hc hm hd)]
  exact hround.exact_ofQuotient hc hm hd

end Between

/-! ## The sum with one half -/

/-- One half. -/
def half : Float :=
  ofQuotient false 1 2

theorem hasValue_half : HasValue half (1 / 2) :=
  ⟨false, 2 ^ 52, -53, by decide, by norm_num [withSign]⟩

/-- The sum of `x` with one half is finite, and has the floor of the exact sum unless the value
    of `x` is one of those that are rounded one too high. -/
def FloorsUp (x : Float) (v : ℚ) : Prop :=
  ∃ u, HasValue (x + half) u ∧
    (⌊u⌋ = ⌊v + 1 / 2⌋ ∧ ¬RoundsPast v ∨ ⌊u⌋ = ⌊v + 1 / 2⌋ + 1 ∧ RoundsPast v)

section Half

variable {x : Float} {v : ℚ} {c : ℕ} {p : ℤ} {s : Bool}

theorem not_roundsPast_of_lt (h : |v| ≤ 2 ^ 52) (hv : v ≠ 1 / 2 - 1 / 2 ^ 54) :
    ¬RoundsPast v := by
  rintro (h' | ⟨k, rfl, -, hk, -⟩)
  · exact hv h'
  · rw [← Int.cast_abs, Int.abs_eq_natAbs] at h
    have : (k.natAbs : ℤ) ≤ 2 ^ 52 := by exact_mod_cast h
    omega

theorem not_roundsPast_of_ge (h : 2 ^ 53 ≤ |v|) : ¬RoundsPast v := by
  rintro (rfl | ⟨k, rfl, -, -, hk⟩)
  · norm_num at h
  · rw [← Int.cast_abs, Int.abs_eq_natAbs] at h
    have : (2 ^ 53 : ℤ) ≤ k.natAbs := by exact_mod_cast h
    omega

theorem roundsPast_int_iff (k : ℤ) :
    RoundsPast k ↔ k % 2 = 1 ∧ 2 ^ 52 < k.natAbs ∧ k.natAbs < 2 ^ 53 := by
  constructor
  · rintro (h | ⟨j, h, hj⟩)
    · have h0 : (0 : ℚ) < k := by rw [h]; norm_num
      have h1 : (k : ℚ) < 1 := by rw [h]; norm_num
      have h0 : 0 < k := by exact_mod_cast h0
      have h1 : k < 1 := by exact_mod_cast h1
      omega
    · obtain rfl : k = j := by exact_mod_cast h
      exact hj
  · exact fun h => .inr ⟨k, rfl, h⟩

theorem abs_withSign (s : Bool) (c : ℕ) (p : ℤ) : |(withSign s c * 2 ^ p : ℚ)| = c * 2 ^ p := by
  have hp := (two_zpow_pos p).le
  cases s <;> simp [withSign, abs_mul, abs_of_nonneg hp]

/-- A sum that is not rounded. -/
theorem floorsUp_of_representable (hx : HasValue x v) (h : Representable (v + 1 / 2))
    (hv : ¬RoundsPast v) : FloorsUp x v :=
  ⟨v + 1 / 2, hx.add hasValue_half h, .inl ⟨rfl, hv⟩⟩

theorem floor_int_add_half (k : ℤ) : ⌊(k + 1 / 2 : ℚ)⌋ = k := by
  rw [Int.floor_intCast_add]
  norm_num

/-- From `2^53` on one half is at most a quarter of the last place. -/
theorem exact_add_half {i : ℕ} (hx : HasValue x (withSign s c * 2 ^ (i : ℤ)))
    (hc : (Exact.finite s c i).Canonical) (h52 : 2 ^ 52 ≤ c) (hi : (2 : ℚ) ≤ 2 ^ i) :
    exact (x + half) = .finite s c i := by
  have hpos : 0 < c * 2 ^ i := by positivity
  have hgap : 1 / (2 * 2 ^ i : ℚ) ≤ 1 / 4 := by
    rw [div_le_div_iff₀ (by positivity) (by norm_num)]
    linarith
  obtain ⟨num, hsum, hdistance⟩ : ∃ num : ℕ,
      (withSign s c * 2 ^ (i : ℤ) + 1 / 2 : ℚ) = withSign s num / (2 : ℕ) ∧
        |(num / (2 : ℕ) : ℚ) / 2 ^ (i : ℤ) - c| = 1 / (2 * 2 ^ i) := by
    simp only [zpow_natCast]
    cases s with
    | false =>
      refine ⟨2 * (c * 2 ^ i) + 1, ?_, ?_⟩
      · simp only [withSign, Bool.false_eq_true, if_false]
        push_cast
        ring
      · rw [← abs_of_pos (show 0 < 1 / (2 * 2 ^ i : ℚ) by positivity)]
        congr 1
        push_cast
        field_simp
        ring
    | true =>
      have hone : 1 ≤ 2 * (c * 2 ^ i) := by omega
      refine ⟨2 * (c * 2 ^ i) - 1, ?_, ?_⟩
      · simp only [withSign, if_true]
        push_cast [Nat.cast_sub hone]
        ring
      · rw [← abs_of_pos (show 0 < 1 / (2 * 2 ^ i : ℚ) by positivity), ← abs_neg]
        congr 1
        push_cast [Nat.cast_sub hone]
        field_simp
        ring
  exact exact_add_of_roundsTo num 2 hx hasValue_half hc (by omega) two_pos hsum
    (roundsTo_of_close (hdistance.trans_le hgap))

/-- A double from `2^53` on stays. -/
theorem floorsUp_of_large (hx : HasValue x (withSign s c * 2 ^ p))
    (hc : (Exact.finite s c p).Canonical) (hp : 1 ≤ p) : FloorsUp x (withSign s c * 2 ^ p) := by
  have h52 : 2 ^ 52 ≤ c := by obtain ⟨-, rfl⟩ | ⟨h, -⟩ := hc <;> omega
  obtain ⟨i, rfl⟩ := Int.eq_ofNat_of_zero_le (show 0 ≤ p by omega)
  have hi : (2 : ℚ) ≤ 2 ^ i := by
    calc (2 : ℚ) = 2 ^ 1 := (pow_one 2).symm
      _ ≤ 2 ^ i := pow_le_pow_right₀ (by norm_num) (by omega)
  have hint : (withSign s c * 2 ^ (i : ℤ) : ℚ) = (withSign s c * 2 ^ i : ℤ) := by
    push_cast
    rw [zpow_natCast]
  refine ⟨_, ⟨s, c, i, exact_add_half hx hc h52 hi, rfl⟩, .inl ⟨?_, ?_⟩⟩
  · rw [hint, Int.floor_intCast, floor_int_add_half]
  · refine not_roundsPast_of_ge ?_
    rw [abs_withSign, zpow_natCast]
    have : (2 ^ 52 : ℚ) ≤ c := by exact_mod_cast h52
    calc (2 ^ 53 : ℚ) = 2 ^ 52 * 2 := by norm_num
      _ ≤ c * 2 ^ i := mul_le_mul this hi (by norm_num) (by positivity)

/-- A sum halfway between two integers with 53 digits is rounded to the even one. -/
theorem hasValue_midpoint {y : Float} {w : ℚ} {d : ℕ} (hx : HasValue x v) (hy : HasValue y w)
    (hd : 2 ^ 52 ≤ d) (hd' : d < 2 ^ 53) (h : v + w = withSign s (2 * d + 1) / 2) :
    HasValue (x + y) (withSign s (d + d % 2)) := by
  have hd52 : ((2 ^ 52 : ℕ) : ℚ) ≤ d := by exact_mod_cast hd
  have hd53 : (d + 1 : ℚ) ≤ (2 ^ 53 : ℕ) := by exact_mod_cast hd'
  push_cast at hd52 hd53
  have hq : quotientExponent (2 * d + 1) 2 = 0 := by
    obtain ⟨e, hlow, hhigh, he⟩ :=
      exists_quotientExponent (show 0 < 2 * d + 1 by omega) (show 0 < 2 by decide)
    push_cast at hlow hhigh
    have h1 : (2 : ℚ) ^ (e + 52) < 2 ^ (53 : ℤ) := by
      refine hlow.trans_lt ?_
      rw [show (2 : ℚ) ^ (53 : ℤ) = 2 ^ 53 by norm_num]
      linarith
    have h2 : (2 : ℚ) ^ (52 : ℤ) < 2 ^ (e + 53) := by
      refine lt_of_le_of_lt ?_ hhigh
      rw [show (2 : ℚ) ^ (52 : ℤ) = 2 ^ 52 by norm_num]
      linarith
    have h1 := two_zpow_lt_iff.mp h1
    have h2 := two_zpow_lt_iff.mp h2
    omega
  have hm : quotientMantissa (2 * d + 1) 2 = d + d % 2 := by
    unfold quotientMantissa roundQuotient
    rw [hq]
    simp only [neg_zero, Int.toNat_zero, pow_zero, Nat.mul_one]
    rw [if_neg (by omega), if_neg (by omega)]
    omega
  have hsum := hx.add_rounded hy (by omega) two_pos h (overflows_eq_false (by omega) two_pos
    (by rw [hq]; decide))
  rwa [hq, hm, zpow_zero, Rat.mul_one] at hsum

/-- An integer with 53 digits stays if it is even, and else goes to the next one. -/
theorem floorsUp_of_integer (hx : HasValue x (withSign s c)) (hc : 2 ^ 52 ≤ c) (hc' : c < 2 ^ 53) :
    FloorsUp x (withSign s c) := by
  cases s with
  | false =>
    have hsum := hasValue_midpoint (s := false) hx hasValue_half hc hc' (by
      simp only [withSign, Bool.false_eq_true, if_false]
      push_cast
      ring)
    refine ⟨_, hsum, ?_⟩
    rw [Int.floor_intCast, floor_int_add_half, roundsPast_int_iff]
    simp only [withSign, Bool.false_eq_true, if_false]
    omega
  | true =>
    obtain rfl | hc := hc.eq_or_lt
    · refine floorsUp_of_representable hx
        ⟨-(2 ^ 53 - 1), -1, ?_, by decide, by decide, by decide⟩ ?_
      · norm_num [withSign]
      · rw [roundsPast_int_iff]
        decide
    · have hsum := hasValue_midpoint (s := true) (d := c - 1) hx hasValue_half (by omega)
        (by omega) (by
          simp only [withSign, if_true]
          push_cast [Nat.cast_sub (show 1 ≤ c by omega)]
          ring)
      refine ⟨_, hsum, ?_⟩
      rw [Int.floor_intCast, floor_int_add_half, roundsPast_int_iff]
      simp only [withSign, if_true]
      omega

/-- One half in units of the last place. -/
theorem half_eq {i : ℕ} (hp : p = -(i + 1 : ℕ)) : (1 / 2 : ℚ) = (2 ^ i : ℕ) * 2 ^ p := by
  rw [two_pow_mul_zpow, hp]
  push_cast
  rw [show (i + -(i + 1) : ℤ) = -1 by ring]
  norm_num

theorem not_roundsPast_of_fraction (hc : 2 ^ 52 ≤ c) (hc' : c < 2 ^ 53) (hp : -53 ≤ p)
    (hp' : p ≤ -1) : ¬RoundsPast (withSign s c * 2 ^ p) := by
  have hpow := two_zpow_pos p
  refine not_roundsPast_of_lt ?_ ?_
  · rw [abs_withSign]
    calc (c * 2 ^ p : ℚ) ≤ (2 ^ 53 : ℕ) * 2 ^ (-1 : ℤ) :=
          mul_le_mul (by exact_mod_cast hc'.le) (zpow_le_zpow_right₀ (by norm_num) hp') hpow.le
            (by positivity)
      _ = 2 ^ 52 := by norm_num
  · intro h
    have hbig : (1 / 2 : ℚ) ≤ c * 2 ^ p := by
      calc (1 / 2 : ℚ) = (2 ^ 52 : ℕ) * 2 ^ (-53 : ℤ) := by norm_num
        _ ≤ c * 2 ^ p := mul_le_mul (by exact_mod_cast hc)
            (zpow_le_zpow_right₀ (by norm_num) hp) (by positivity) (Nat.cast_nonneg c)
    rw [← abs_withSign s, h] at hbig
    norm_num at hbig

/-- A sum past the next power of two has a fraction of one half at most, and is not rounded
    across that half. -/
theorem floorsUp_of_carry {k : ℕ} (hx : HasValue x (c * 2 ^ p)) (hp : p = -(k + 1 + 1 : ℕ))
    (hk : k ≤ 51) (hc : c < 2 ^ 53) (hcarry : 2 ^ 53 < c + 2 ^ (k + 1))
    (hpast : ¬RoundsPast (c * 2 ^ p)) : FloorsUp x (c * 2 ^ p) := by
  have hpow := two_zpow_pos p
  have hhalf := half_eq hp
  obtain ⟨T, hT⟩ : ∃ T : ℕ, T = 2 ^ (51 - k) := ⟨_, rfl⟩
  have hpower : (T : ℚ) = (2 ^ 53 : ℕ) * 2 ^ p := by
    rw [two_pow_mul_zpow, hp, hT, Nat.cast_pow, Nat.cast_ofNat, ← zpow_natCast]
    congr 1
    omega
  have hvalue : (c * 2 ^ p + 1 / 2 : ℚ) = (c + 2 ^ (k + 1) : ℕ) * 2 ^ p := by
    rw [hhalf, Nat.cast_add, add_mul]
  have hbound : (T + 1 / 2 : ℚ) = (2 ^ 52 + 2 ^ k : ℕ) * 2 ^ (p + 1) := by
    rw [hpower, hhalf, zpow_add_one₀ (by norm_num), ← add_mul]
    push_cast
    ring
  have hlow : (T : ℚ) ≤ c * 2 ^ p + 1 / 2 := by
    rw [hvalue, hpower]
    exact mul_le_mul_of_nonneg_right (by exact_mod_cast hcarry.le) hpow.le
  have hhigh : (c * 2 ^ p + 1 / 2 : ℚ) ≤ T + 1 / 2 := by
    rw [hpower]
    exact add_le_add_left (mul_le_mul_of_nonneg_right (by exact_mod_cast hc.le) hpow.le) _
  have hlt : (c * 2 ^ p + 1 / 2 : ℚ) < 2 ^ (p + 1 + 53) := by
    have h52 : 2 ^ (k + 1) ≤ 2 ^ 52 := Nat.pow_le_pow_right (by decide) (by omega)
    rw [show p + 1 + 53 = (54 : ℕ) + p by push_cast; ring, ← two_pow_mul_zpow, hvalue]
    refine mul_lt_mul_of_pos_right ?_ hpow
    exact_mod_cast (by omega : c + 2 ^ (k + 1) < 2 ^ 54)
  obtain ⟨u, hu, hu0, hu1⟩ := exists_add_between hx hasValue_half
    (lt_of_lt_of_le (by rw [hpower]; positivity) hlow)
    (hT ▸ Nat.pow_le_pow_right (by decide) (by omega)) hlow (by omega) (by omega) hlt
    (hbound ▸ hhigh)
  rw [← hbound] at hu1
  refine ⟨u, hu, .inl ⟨?_, hpast⟩⟩
  have hfloor : ∀ {z : ℚ}, (T : ℚ) ≤ z → z ≤ T + 1 / 2 → ⌊z⌋ = T := fun h0 h1 =>
    Int.floor_eq_iff.mpr ⟨by exact_mod_cast h0, by rw [Int.cast_natCast]; linarith⟩
  rw [hfloor hu0 hu1, hfloor hlow hhigh]

/-- A double from one half to `2^52` with a fraction. -/
theorem floorsUp_of_fraction (hx : HasValue x (withSign s c * 2 ^ p)) (hc : 2 ^ 52 ≤ c)
    (hc' : c < 2 ^ 53) (hp : -53 ≤ p) (hp' : p ≤ -1) : FloorsUp x (withSign s c * 2 ^ p) := by
  obtain ⟨i, hi⟩ : ∃ i : ℕ, p = -(i + 1 : ℕ) := ⟨(-p - 1).toNat, by omega⟩
  have hhalf := half_eq hi
  have hpast := not_roundsPast_of_fraction (s := s) hc hc' hp hp'
  have hsum : (withSign s c * 2 ^ p + 1 / 2 : ℚ) = (withSign s c + (2 ^ i : ℕ) : ℤ) * 2 ^ p := by
    rw [hhalf, ← add_mul]
    push_cast
    rfl
  by_cases hfits : (withSign s c + (2 ^ i : ℕ)).natAbs ≤ 2 ^ 53
  · exact floorsUp_of_representable hx ⟨_, p, hsum, hfits, by omega, by omega⟩ hpast
  · -- The sum is past the next power of two, at most by one half, which is even there.
    obtain rfl : s = false := by
      cases s with
      | false => rfl
      | true =>
        have hi52 : 2 ^ i ≤ 2 ^ 52 := Nat.pow_le_pow_right (by decide) (by omega)
        simp only [withSign, if_true] at hfits
        generalize 2 ^ i = h at *
        omega
    simp only [withSign, Bool.false_eq_true, if_false, Int.cast_natCast] at hx hpast hfits ⊢
    replace hfits : 2 ^ 53 < c + 2 ^ i := by
      generalize 2 ^ i = h at *
      omega
    obtain ⟨k, rfl⟩ : ∃ k, i = k + 1 := by
      refine Nat.exists_eq_succ_of_ne_zero ?_
      rintro rfl
      omega
    exact floorsUp_of_carry hx hi (by omega) hc' hfits hpast

/-- There is one double between one half and the place below it. -/
theorem le_of_ne_half (hc : c < 2 ^ 53) (hp : p ≤ -54)
    (h : (withSign s c * 2 ^ p : ℚ) ≠ 1 / 2 - 1 / 2 ^ 54) :
    (withSign s c * 2 ^ p : ℚ) ≤ 1 / 2 - 1 / 2 ^ 53 := by
  have hle : (withSign s c * 2 ^ p : ℚ) ≤ c * 2 ^ p := by
    rw [← abs_withSign s]
    exact le_abs_self _
  obtain rfl | hp : p = -54 ∨ p ≤ -55 := by omega
  · have hmantissa : withSign s c ≤ 2 ^ 53 - 2 := by
      by_contra hlt
      have hc' : withSign s c = 2 ^ 53 - 1 := by
        cases s <;> simp only [withSign, Bool.false_eq_true, if_true, if_false] at hlt ⊢ <;> omega
      exact h (by rw [hc']; norm_num)
    have : (withSign s c : ℚ) ≤ 2 ^ 53 - 2 := by exact_mod_cast hmantissa
    norm_num at this ⊢
    linarith
  · have h53 : (c : ℚ) ≤ 2 ^ 53 := by exact_mod_cast hc.le
    calc (withSign s c * 2 ^ p : ℚ) ≤ c * 2 ^ p := hle
      _ ≤ 2 ^ 53 * 2 ^ (-55 : ℤ) :=
          mul_le_mul h53 (zpow_le_zpow_right₀ (by norm_num) hp) (two_zpow_pos p).le (by norm_num)
      _ ≤ 1 / 2 - 1 / 2 ^ 53 := by norm_num

/-- A double below one half. -/
theorem floorsUp_of_small (hx : HasValue x (withSign s c * 2 ^ p)) (hc : c < 2 ^ 53)
    (hp : p ≤ -54) : FloorsUp x (withSign s c * 2 ^ p) := by
  have h53 : (c : ℚ) + 1 ≤ 2 ^ 53 := by exact_mod_cast hc
  have hle : ∀ {k : ℤ}, p ≤ k → (c * 2 ^ p : ℚ) ≤ c * 2 ^ k := fun hk =>
    mul_le_mul_of_nonneg_left (zpow_le_zpow_right₀ (by norm_num) hk) (Nat.cast_nonneg c)
  have hsize : (c * 2 ^ p : ℚ) ≤ 1 / 2 - 1 / 2 ^ 54 := by
    refine (hle hp).trans ?_
    norm_num at h53 ⊢
    linarith
  have habs := abs_withSign s c p
  generalize hv : (withSign s c * 2 ^ p : ℚ) = v at *
  obtain ⟨hlow, hhigh⟩ := abs_le.mp (habs.le.trans hsize)
  have hfloor : ⌊v + 1 / 2⌋ = 0 := Int.floor_eq_zero_iff.mpr ⟨by linarith, by linarith⟩
  by_cases hpast : v = 1 / 2 - 1 / 2 ^ 54
  · -- The sum is halfway between the largest double below one, and one.
    obtain rfl := hx.eq_ofQuotient (s := false) (show 0 < 2 ^ 53 - 1 by norm_num)
      (show 0 < 2 ^ 54 by norm_num) (by rw [hpast]; norm_num [withSign])
    refine ⟨1, ⟨false, 2 ^ 52, -52, by decide, by norm_num [withSign]⟩, .inr ⟨?_, .inl hpast⟩⟩
    rw [hfloor]
    norm_num
  · have hhigh' := le_of_ne_half hc hp (hv ▸ hpast)
    rw [hv] at hhigh'
    obtain ⟨u, hu, h0, h1⟩ := exists_add_between hx hasValue_half (n := 0) (b := 2 ^ 53 - 1)
      (j := -53) (by linarith) (by norm_num) (by push_cast; linarith) (by norm_num) (by norm_num)
      (by norm_num; linarith) (by norm_num at hhigh' ⊢; linarith)
    refine ⟨u, hu, .inl ⟨?_, not_roundsPast_of_lt (by rw [habs]; linarith) hpast⟩⟩
    rw [hfloor]
    exact Int.floor_eq_zero_iff.mpr ⟨by exact_mod_cast h0, h1.trans_lt (by norm_num)⟩

/-- The floor of the sum with one half, for every finite double. -/
theorem floor_add_half (hx : HasValue x v) : FloorsUp x v := by
  obtain ⟨s, c, p, hexact, rfl⟩ := id hx
  have hc := canonical_exact x
  rw [hexact] at hc
  by_cases hsmall : p ≤ -54
  · have hc53 : c < 2 ^ 53 := by obtain ⟨h, -⟩ | ⟨-, h, -⟩ := hc <;> omega
    exact floorsUp_of_small hx hc53 hsmall
  obtain ⟨-, rfl⟩ | ⟨h52, h53, -⟩ := id hc
  · omega
  obtain hp | rfl | hp : 1 ≤ p ∨ p = 0 ∨ p ≤ -1 := by omega
  · exact floorsUp_of_large hx hc hp
  · rw [zpow_zero, Rat.mul_one] at hx ⊢
    exact floorsUp_of_integer hx h52 h53
  · exact floorsUp_of_fraction hx h52 h53 (by omega) hp

/-- The floor of a finite double converts to a finite double. -/
theorem exists_toReal_floor (hx : HasValue x v) :
    ∃ y, (Number.int ⌊v⌋).toReal = .ok y ∧ isFinite y = true := by
  obtain ⟨s, m, q, hexact, rfl⟩ := hx
  have hc := canonical_exact x
  rw [hexact] at hc
  generalize hk : ⌊(withSign s m * 2 ^ q : ℚ)⌋ = k
  have finite : ∀ {y : Float} {w : ℚ}, HasValue y w → isFinite y = true := by
    rintro y w ⟨t, n, p, hy, -⟩
    rw [isFinite, hy]
  rcases le_or_gt 0 q with hq | hq
  · -- The double is an integer itself.
    obtain ⟨i, rfl⟩ := Int.eq_ofNat_of_zero_le hq
    have hvalue : (k : ℚ) = withSign s m * 2 ^ (i : ℤ) := by
      rw [← hk, zpow_natCast]
      exact_mod_cast congrArg Int.cast (Int.floor_intCast (R := ℚ) (withSign s m * 2 ^ i))
    by_cases h0 : k = 0
    · subst h0
      exact ⟨_, rfl, by decide⟩
    · obtain ⟨y, hy, hexact'⟩ := Number.exact_ofInt h0 hc hvalue
      refine ⟨y, ?_, by rw [isFinite, hexact']⟩
      unfold Number.toReal
      dsimp only
      rw [hy]
  · have hm : m < 2 ^ 53 := by obtain ⟨h, -⟩ | ⟨-, h, -⟩ := hc <;> omega
    have habs : |(withSign s m * 2 ^ q : ℚ)| ≤ (2 ^ 53 : ℤ) := by
      rw [abs_withSign]
      calc (m * 2 ^ q : ℚ) ≤ 2 ^ 53 * 1 :=
            mul_le_mul (by exact_mod_cast hm.le) (zpow_le_one_of_nonpos₀ (by norm_num) hq.le)
              (two_zpow_pos q).le (by norm_num)
        _ = (2 ^ 53 : ℤ) := by norm_num
    obtain ⟨hlow, hhigh⟩ := abs_le.mp habs
    have h1 : k ≤ 2 ^ 53 := by
      have : (k : ℚ) ≤ (2 ^ 53 : ℤ) := hk ▸ (Int.floor_le _).trans hhigh
      exact_mod_cast this
    have h0 : -2 ^ 53 ≤ k := hk ▸ Int.le_floor.mpr (by push_cast at hlow ⊢; exact hlow)
    obtain ⟨y, hy, hvalue⟩ := Number.HasValue.exists_toReal (a := .int k) rfl
      ⟨k, 0, by rw [zpow_zero, Rat.mul_one], by omega, by decide, by decide⟩
    exact ⟨y, hy, finite hvalue⟩

end Half

end TokenFormula.Double

namespace TokenFormula.Number

open Double (RoundsPast Representable)

/-- Rounding gives the floor of the exact sum with one half, or one more; the result converts
    to a finite double. -/
theorem HasValue.round_spec {a : Number} {v : ℚ} (ha : a.HasValue v)
    (hint : ∀ k, a = int k → k.natAbs < 2 ^ 53) :
    ∃ n : ℤ, a.round = .ok n ∧ (∃ y, (int n).toReal = .ok y ∧ Double.isFinite y = true) ∧
      (n = ⌊v + 1 / 2⌋ ∧ ¬RoundsPast v ∨ n = ⌊v + 1 / 2⌋ + 1 ∧ RoundsPast v) := by
  obtain ⟨x, hax, hx⟩ : ∃ x, a.toReal = .ok x ∧ Double.HasValue x v := by
    cases a with
    | real x => exact ⟨x, rfl, ha⟩
    | int k =>
      obtain rfl : v = k := ha
      exact HasValue.exists_toReal (a := .int k) rfl
        ⟨k, 0, by rw [zpow_zero, Rat.mul_one], (hint k rfl).le, by decide, by decide⟩
  obtain ⟨u, hu, hfloor⟩ := Double.floor_add_half hx
  refine ⟨⌊u⌋, ?_, Double.exists_toReal_floor hu, hfloor⟩
  rw [round, hax, ok_bind]
  exact hu.floor_eq

end TokenFormula.Number
