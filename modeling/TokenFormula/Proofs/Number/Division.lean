import TokenFormula.Proofs.Number.Arithmetic

/-!
# The floor of a quotient of doubles

A quotient of doubles is computed with a few digits more than a double has, then
rounded twice: once to the places of a double and once more if the first rounding
carries. No step goes below a double that the quotient is not below. So the floor of
the result is not below any integer up to `2^53` that the quotient is not below.

Results:
* `CrossesNone`: rounding that no double stands in the way of.
* `roundWithAccuracy_spec`, `divCore_spec`: rounding does not go below a double.
* `le_floor_div`: the floor of a quotient of doubles, from below.
-/

namespace TokenFormula.Double

open Float.Model Float.Model.UnpackedFloat

/-! ## Cutting digits off -/

/-- On the way from `v` to `w` one does not go below a double. -/
def CrossesNone (v w : ℚ) : Prop :=
  ∀ s c p, (Exact.finite s c p).Canonical → (c * 2 ^ p : ℚ) ≤ v → (c * 2 ^ p : ℚ) ≤ w

theorem CrossesNone.trans {u v w : ℚ} (h : CrossesNone u v) (h' : CrossesNone v w) :
    CrossesNone u w :=
  fun s c p hc hle => h' s c p hc (h s c p hc hle)

theorem crossesNone_of_le {v w : ℚ} (h : v ≤ w) : CrossesNone v w :=
  fun _ _ _ _ hle => hle.trans h

/-- The mantissa has all digits of a double, or its exponent is below those of the doubles. -/
def Full (m : ℕ) (q : ℤ) : Prop :=
  2 ^ 52 ≤ m ∨ q ≤ -1074

/-- The mantissa and the exponent are those of a double, or of one beyond the largest. -/
structure InFormat (m : ℕ) (q : ℤ) : Prop where
  lt : m < 2 ^ 53
  le : -1074 ≤ q
  full : Full m q

section Cut

variable {M a b : ℕ} {E : ℤ} {acc : Accuracy}

/-- Cutting off at a place below the last one of a double does not go below it. -/
theorem crossesNone_cut (hb : 0 < b) (hfull : Full (a / b) E) :
    CrossesNone (a / b * 2 ^ E) ((a / b : ℕ) * 2 ^ E) := by
  intro s c p hc h
  rcases le_or_gt E p with hE | hE
  · -- The double is a multiple of the place.
    obtain ⟨j, rfl⟩ : ∃ j : ℕ, p = E + j := ⟨(p - E).toNat, by omega⟩
    have hvalue : (c * 2 ^ (E + j) : ℚ) = (c * 2 ^ j : ℕ) * 2 ^ E := by
      rw [zpow_add₀ (by norm_num), zpow_natCast]
      push_cast
      ring
    rw [hvalue] at h ⊢
    have hle := le_of_mul_le_mul_right h (two_zpow_pos E)
    rw [le_div_iff₀ (by exact_mod_cast hb)] at hle
    refine mul_le_mul_of_nonneg_right ?_ (two_zpow_pos E).le
    exact_mod_cast (Nat.le_div_iff_mul_le hb).mpr (by exact_mod_cast hle)
  · -- The double is below the least mantissa with all digits at the place.
    have hc53 : c ≤ 2 ^ 53 ∧ -1074 ≤ p := by
      obtain ⟨h52, rfl⟩ | ⟨-, h53, hp, -⟩ := hc <;> omega
    have h52 : 2 ^ 52 ≤ a / b := hfull.resolve_right (by omega)
    calc (c * 2 ^ p : ℚ) ≤ (2 ^ 53 : ℕ) * 2 ^ p :=
          mul_le_mul_of_nonneg_right (by exact_mod_cast hc53.1) (two_zpow_pos p).le
      _ = 2 ^ ((53 : ℕ) + p) := two_pow_mul_zpow 53 p
      _ ≤ 2 ^ ((52 : ℕ) + E) := zpow_le_zpow_right₀ (by norm_num) (by omega)
      _ = (2 ^ 52 : ℕ) * 2 ^ E := (two_pow_mul_zpow 52 E).symm
      _ ≤ (a / b : ℕ) * 2 ^ E :=
          mul_le_mul_of_nonneg_right (by exact_mod_cast h52) (two_zpow_pos E).le

theorem mantissa_shiftRight (em : ExtendedMantissa) (k : ℕ) :
    (em >>> k).mantissa = em.mantissa / 2 ^ k := by
  show (Nat.repeat ExtendedMantissa.shiftRightOne k em).mantissa = _
  induction k with
  | zero => rw [Nat.pow_zero, Nat.div_one]; rfl
  | succ k ih =>
    rw [Nat.pow_succ, ← Nat.div_div_eq_div_mul, ← ih]
    rfl

theorem mantissa_ofMantissaAndAccuracy (m : ℕ) (acc : Accuracy) :
    (ExtendedMantissa.ofMantissaAndAccuracy m acc).mantissa = m := by
  cases acc with
  | exact => rfl
  | inexact o => cases o <;> rfl

theorem le_roundedMantissa (em : ExtendedMantissa) : em.mantissa ≤ em.roundedMantissa := by
  unfold ExtendedMantissa.roundedMantissa Accuracy.roundToNearestEven
  split <;> omega

/-- The places that are cut off to leave those of a double. -/
theorem inFormat_cut (hfull : Full M E) {k : ℕ}
    (hk : k = (max (totalExponent M E - 53) (-1074) - E).toNat) :
    InFormat (M / 2 ^ k) (E + k) := by
  have hlog : 2 ^ 52 ≤ M → 52 ≤ M.log2 := fun h52 => (Nat.le_log2 (by omega)).mpr h52
  obtain ⟨T, hT⟩ : ∃ T, T = max ((M.log2 : ℤ) + 1 + E - 53) (-1074) := ⟨_, rfl⟩
  have hle : E ≤ T := by
    obtain h52 | hE := hfull
    · have := hlog h52
      omega
    · omega
  have hk : T = E + k := by
    unfold totalExponent at hk
    omega
  rw [← hk]
  refine ⟨?_, by omega, ?_⟩
  · have hM : M < 2 ^ (M.log2 + 1) := Nat.lt_log2_self
    refine Nat.div_lt_of_lt_mul (hM.trans_le ?_)
    rw [← Nat.pow_add]
    exact Nat.pow_le_pow_right (by decide) (by omega)
  · by_cases hsubnormal : T = -1074
    · exact .inr hsubnormal.le
    · have hL : M.log2 = 52 + k := by omega
      have hM : M ≠ 0 := by
        rintro rfl
        rw [Nat.log2_zero] at hL
        omega
      left
      rw [Nat.le_div_iff_mul_le (Nat.two_pow_pos k), ← Nat.pow_add, ← hL]
      exact Nat.log2_self_le hM

/-- Shifting to the places of a double does not go below one. -/
theorem shiftToTargetExponent_spec (hfull : Full M E) {em : ExtendedMantissa} {q : ℤ}
    (h : shiftToTargetExponent Format.binary64 M E acc = (em, q)) :
    InFormat em.mantissa q ∧ CrossesNone (M * 2 ^ E) (em.mantissa * 2 ^ q) := by
  unfold shiftToTargetExponent shiftToExponent at h
  rw [targetExponent_eq] at h
  obtain ⟨rfl, rfl⟩ := Prod.mk.inj h
  rw [mantissa_shiftRight, mantissa_ofMantissaAndAccuracy]
  generalize hk : (max (totalExponent M E - 53) (-1074) - E).toNat = k
  have hformat := inFormat_cut hfull hk.symm
  have hvalue : (M * 2 ^ E : ℚ) = M / (2 ^ k : ℕ) * 2 ^ (E + k) := by
    rw [zpow_add₀ (by norm_num), zpow_natCast, div_mul_eq_mul_div,
      eq_div_iff (by positivity)]
    push_cast
    ring
  rw [hvalue]
  exact ⟨hformat, crossesNone_cut (Nat.two_pow_pos k) hformat.full⟩

/-- Rounding does not go below a double. -/
theorem roundWithAccuracy_spec (hfull : Full M E) (acc : Accuracy) (s : Bool) :
    ∃ m q, roundWithAccuracy Format.binary64 (signOf s) M E acc =
        (Exact.finite s m q).unpacked ∧ InFormat m q ∧ CrossesNone (M * 2 ^ E) (m * 2 ^ q) := by
  rcases hfirst : shiftToTargetExponent Format.binary64 M E acc with ⟨em, e⟩
  obtain ⟨hformat, hcross⟩ := shiftToTargetExponent_spec hfull hfirst
  have hround := le_roundedMantissa em
  have hle : (em.mantissa * 2 ^ e : ℚ) ≤ em.roundedMantissa * 2 ^ e :=
    mul_le_mul_of_nonneg_right (by exact_mod_cast hround) (two_zpow_pos e).le
  -- The first rounding may carry; the digits are cut again then.
  have hfull' : Full em.roundedMantissa e := hformat.full.imp (·.trans hround) id
  rcases hsecond : shiftToTargetExponent Format.binary64 em.roundedMantissa e .exact with ⟨em', q⟩
  obtain ⟨hformat', hcross'⟩ := shiftToTargetExponent_spec hfull' hsecond
  refine ⟨em'.mantissa, q, ?_, hformat', (hcross.trans (crossesNone_of_le hle)).trans hcross'⟩
  unfold roundWithAccuracy
  rw [hfirst]
  dsimp only
  rw [hsecond]
  rfl

end Cut

/-! ## Packing -/

theorem InFormat.canonical {s : Bool} {m : ℕ} {q : ℤ} (h : InFormat m q) (hq : q ≤ 971) :
    (Exact.finite s m q).Canonical := by
  obtain ⟨hlt, hle, hfull⟩ := h
  show _ ∨ _
  unfold Full at hfull
  omega

/-- What is beyond the largest double becomes an infinity. -/
theorem InFormat.exact_pack {s : Bool} {m : ℕ} {q : ℤ} (h : InFormat m q) :
    exact (.ofModel (Float.Model.pack (Exact.finite s m q).unpacked)) = .finite s m q ∨
      exact (.ofModel (Float.Model.pack (Exact.finite s m q).unpacked)) = .infinite s := by
  by_cases hq : q ≤ 971
  · exact .inl (Double.exact_pack (h.canonical hq))
  · have hm : m ≠ 0 := by
      have := h.full.resolve_right (by omega)
      omega
    have hpack : UnpackedFloat.pack Format.binary64 (Exact.finite s m q).unpacked =
        packedInfinity Format.binary64 (signOf s) := by
      rw [Exact.unpacked_finite hm, pack_finite, if_pos (by omega)]
    right
    rw [exact_eq]
    show Exact.ofBits (UnpackedFloat.pack Format.binary64 _).toNat = _
    rw [hpack]
    cases s <;> rfl

/-! ## Division -/

theorem div_eq (x y : Float) : x / y =
    .ofModel (Float.Model.pack
      (UnpackedFloat.div Format.binary64 (exact x).unpacked (exact y).unpacked)) := by
  rw [← unpack_eq, ← unpack_eq]
  rfl

theorem div_finite {s t : Sign} {m k Q : ℕ} {e f q : ℤ} {acc : Accuracy} {hm : 0 < m} {hk : 0 < k}
    (h : divCore Format.binary64 m e k f = (Q, q, acc)) :
    UnpackedFloat.div Format.binary64 (.finite s m e hm) (.finite t k f hk) =
      roundWithAccuracy Format.binary64 (s / t) Q q acc := by
  unfold UnpackedFloat.div
  dsimp only
  rw [h]

/-- The digits that are computed of a quotient are not below a double either. -/
theorem divCore_spec {m k Q : ℕ} {e f t : ℤ} {acc : Accuracy} (hm : m ≠ 0) (hk : 0 < k)
    (h : divCore Format.binary64 m e k f = (Q, t, acc)) :
    Full Q t ∧ CrossesNone (m * 2 ^ e / (k * 2 ^ f)) (Q * 2 ^ t) := by
  unfold divCore at h
  rw [targetExponent_eq] at h
  dsimp only at h
  generalize ht : min (e - f) (max (totalExponent m e - totalExponent k f - 53) (-1074)) = t' at h
  obtain ⟨hQ, h⟩ := Prod.mk.inj h
  obtain ⟨rfl, -⟩ := Prod.mk.inj h
  obtain ⟨j, hj⟩ : ∃ j : ℕ, e - f = t' + j := ⟨(e - f - t').toNat, by omega⟩
  rw [show (e - f - t').toNat = j by omega, Nat.shiftLeft_eq] at hQ
  subst hQ
  have hfull : Full (m * 2 ^ j / k) t' := by
    by_cases hlow : t' ≤ -1074
    · exact .inr hlow
    · left
      rw [Nat.le_div_iff_mul_le hk]
      have hlog : k.log2 + 53 ≤ m.log2 + j := by
        unfold totalExponent at ht
        omega
      calc 2 ^ 52 * k ≤ 2 ^ 52 * 2 ^ (k.log2 + 1) := Nat.mul_le_mul_left _ Nat.lt_log2_self.le
        _ = 2 ^ (k.log2 + 53) := by rw [← Nat.pow_add]; congr 1; omega
        _ ≤ 2 ^ (m.log2 + j) := Nat.pow_le_pow_right (by decide) hlog
        _ = 2 ^ m.log2 * 2 ^ j := Nat.pow_add ..
        _ ≤ m * 2 ^ j := Nat.mul_le_mul_right _ (Nat.log2_self_le hm)
  have hvalue : (m * 2 ^ e / (k * 2 ^ f) : ℚ) = (m * 2 ^ j : ℕ) / k * 2 ^ t' := by
    have hk0 : (k : ℚ) ≠ 0 := by exact_mod_cast hk.ne'
    have hf0 := (two_zpow_pos f).ne'
    rw [show e = t' + j + f by omega, zpow_add₀ (by norm_num), zpow_add₀ (by norm_num),
      zpow_natCast]
    push_cast
    field_simp
  rw [hvalue]
  exact ⟨hfull, crossesNone_cut hk hfull⟩

theorem eq_false_of_pos {s : Bool} {m : ℕ} {q : ℤ} (h : (0 : ℚ) < withSign s m * 2 ^ q) :
    s = false := by
  by_contra hs
  rw [Bool.not_eq_false] at hs
  have hm : (withSign s m : ℚ) ≤ 0 := by
    rw [hs, withSign, if_pos rfl]
    push_cast
    exact neg_nonpos.mpr (Nat.cast_nonneg m)
  exact absurd h (mul_nonpos_of_nonpos_of_nonneg hm (two_zpow_pos q).le).not_gt

section Floor

variable {x y : Float} {v w : ℚ} {n : ℕ} {k : ℤ}

theorem le_floor_of_exact {s : Bool} {m : ℕ} {q : ℤ} (hx : exact x = .finite s m q)
    (h : (n : ℚ) ≤ withSign s m * 2 ^ q) (hfloor : (Number.real x).floor = .ok k) :
    (n : ℤ) ≤ k := by
  change Number.integerPart floorScaled x = .ok k at hfloor
  rw [Number.integerPart, hx] at hfloor
  obtain rfl := Except.ok.inj hfloor
  exact le_floorScaled_iff.mpr (by exact_mod_cast h)

/-- The floor of a quotient is at least every integer up to `2^53` that the exact
    quotient is not below. -/
theorem le_floor_div (hx : HasValue x v) (hy : HasValue y w) (hw : 0 < w) (hn : n ≤ 2 ^ 53)
    (h : n * w ≤ v) (hfloor : (Number.real (x / y)).floor = .ok k) : (n : ℤ) ≤ k := by
  obtain ⟨rfl, -⟩ | ⟨t, d, f, hd, -, rfl, hyu⟩ := hy.cases
  · exact absurd hw (lt_irrefl 0)
  obtain rfl := eq_false_of_pos hw
  obtain ⟨rfl, s, hxu⟩ | ⟨s, m, e, hm, -, rfl, hxu⟩ := hx.cases
  · have hn0 : n = 0 := by
      have hle : (n : ℚ) ≤ 0 := le_of_mul_le_mul_right (by rwa [Rat.zero_mul]) hw
      exact_mod_cast Nat.le_zero.mp (by exact_mod_cast hle)
    obtain ⟨s', m, q, hexact, hvalue⟩ : HasValue (x / y) 0 := by
      rw [div_eq, hxu, hyu]
      exact hasValue_zero _
    exact le_floor_of_exact hexact (by rw [← hvalue, hn0, Nat.cast_zero]) hfloor
  · have hpos : (0 : ℚ) < withSign s m * 2 ^ e := by
      refine lt_of_le_of_ne ((mul_nonneg (Nat.cast_nonneg n) hw.le).trans h) (Ne.symm ?_)
      have : (withSign s m : ℚ) ≠ 0 := by
        cases s <;> simpa [withSign] using hm
      exact mul_ne_zero this (two_zpow_pos e).ne'
    obtain rfl := eq_false_of_pos hpos
    obtain ⟨c, p, hc, hcn⟩ := exists_canonical hn (q := 0) (by decide) (by decide) false
    rw [zpow_zero, Rat.mul_one] at hcn
    rcases hdiv : divCore Format.binary64 m e d f with ⟨Q, t, acc⟩
    obtain ⟨hfull, hdigits⟩ := divCore_spec hm (Nat.pos_of_ne_zero hd) hdiv
    obtain ⟨r, q, hround, hformat, hcross⟩ := roundWithAccuracy_spec hfull acc false
    have hr := hdigits.trans hcross false c p hc (by
      rw [hcn, le_div_iff₀ (by exact_mod_cast hw)]
      exact_mod_cast h)
    have hquotient : x / y = .ofModel (Float.Model.pack (Exact.finite false r q).unpacked) := by
      rw [div_eq, hxu, hyu, div_finite hdiv, ← hround]
      rfl
    rcases hformat.exact_pack (s := false) with hexact | hexact
    · rw [← hquotient] at hexact
      exact le_floor_of_exact hexact (hcn.symm.le.trans hr) hfloor
    · change Number.integerPart floorScaled (x / y) = .ok k at hfloor
      rw [hquotient, Number.integerPart, hexact] at hfloor
      cases hfloor

end Floor

end TokenFormula.Double
