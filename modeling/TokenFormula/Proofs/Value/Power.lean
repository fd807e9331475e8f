import TokenFormula.Proofs.Number.Power
import TokenFormula.Proofs.Value.Fault

/-!
# Powers that are infinite

A power of two numbers is an infinity for a base or an exponent to which no double is near,
for zero to a negative power, and where the doubles of the operands have a power beyond the
largest double. In the first case nothing is computed: the exact power may be small, so that
the infinity is due only if base and exponent lie on the same side. The sign of an infinity
is that of the exact power in every case.

Results:
* `PowerOverflows`: the exact power is real and rounds beyond the largest double.
* `InfinityIsDue`: the operands whose infinity stands for such a power.
* `infinityIsDue_iff_of_exact`: so nearly always for doubles.
* `powerWith_infinite_iff`: which powers are infinite, and with which sign.
* `not_power_infinite`: two powers close to zero that are answered with infinity.
-/

namespace TokenFormula

open Double (overflowLimit)

/-! ## Overflow of the exact power -/

/-- The exact power is real and rounds beyond the largest double. -/
def PowerOverflows (b e : ℚ) : Prop :=
  (b < 0 → ∃ n : ℤ, e = n) ∧ (overflowLimit : ℝ) ≤ ((|b| : ℚ) : ℝ) ^ (e : ℝ)

/-- For an integral exponent the power is rational. -/
theorem powerOverflows_int_iff {b : ℚ} {n : ℤ} :
    PowerOverflows b n ↔ (overflowLimit : ℚ) ≤ |b ^ n| := by
  have hpow : ((|b| : ℚ) : ℝ) ^ ((n : ℚ) : ℝ) = ((|b ^ n| : ℚ) : ℝ) := by
    rw [Rat.cast_intCast, Real.rpow_intCast, abs_zpow, Rat.cast_zpow]
  rw [PowerOverflows, hpow, and_iff_right fun _ => ⟨n, rfl⟩]
  exact_mod_cast Iff.rfl

/-- No power of zero overflows. -/
theorem PowerOverflows.ne_zero {b e : ℚ} (h : PowerOverflows b e) : b ≠ 0 := by
  rintro rfl
  have hle : (0 : ℝ) ^ (e : ℝ) ≤ 1 := Real.zero_rpow_le_one _
  have := h.2
  rw [abs_zero, Rat.cast_zero] at this
  exact absurd (this.trans hle) (not_le.mpr Double.one_lt_overflowLimit)

/-- A base beyond the limit overflows for a positive integral exponent. -/
theorem powerOverflows_iff_pos {b : ℚ} {n : ℤ} (hb : (overflowLimit : ℚ) ≤ |b|) :
    PowerOverflows b n ↔ 0 < n := by
  have hone : (1 : ℚ) < overflowLimit := by exact_mod_cast Double.one_lt_overflowLimit
  have hb1 : 1 ≤ |b| := hone.le.trans hb
  rw [powerOverflows_int_iff, abs_zpow]
  constructor
  · intro h
    by_contra hn
    exact absurd (h.trans (zpow_le_one_of_nonpos₀ hb1 (not_lt.mp hn))) (not_le.mpr hone)
  · intro hn
    calc (overflowLimit : ℚ) ≤ |b| := hb
      _ = |b| ^ (1 : ℤ) := (zpow_one _).symm
      _ ≤ |b| ^ n := zpow_le_zpow_right₀ hb1 hn

/-- An exponent beyond the limit decides with the side of the base. -/
theorem powerOverflows_iff_side {base : Number} {b : ℚ} {n : ℤ} (hb : base.HasValue b)
    (hb0 : b ≠ 0) (hn : (overflowLimit : ℚ) ≤ |(n : ℚ)|) :
    PowerOverflows b n ↔ 1 < |b| ∧ (0 : ℚ) < n ∨ |b| < 1 ∧ (n : ℚ) < 0 := by
  have hpos : (0 : ℝ) < ((|b| : ℚ) : ℝ) := by exact_mod_cast abs_pos.mpr hb0
  have haway : ((|b| : ℚ) : ℝ) ≤ 1 - 1 / 2 ^ 53 ∨ ((|b| : ℚ) : ℝ) = 1 ∨
      1 + 1 / 2 ^ 53 ≤ ((|b| : ℚ) : ℝ) := by
    have h := hb.away_from_one.imp (Rat.cast_le (K := ℝ)).mpr
      (Or.imp (congrArg ((↑) : ℚ → ℝ)) (Rat.cast_le (K := ℝ)).mpr)
    norm_num at h ⊢
    exact h
  have hlarge : (2 ^ 63 : ℝ) ≤ |((n : ℚ) : ℝ)| := by
    refine Double.le_overflowLimit.trans ?_
    exact_mod_cast hn
  rw [PowerOverflows, and_iff_right fun _ => ⟨n, rfl⟩,
    Double.overflowLimit_le_rpow_iff hpos haway hlarge]
  exact_mod_cast Iff.rfl

/-! ## The power of values -/

/-- At the doubles of the operands, `pow` gives the one nearest to the real power. -/
def RoundsToNearest (pow : Float → Float → Float) (base exponent : Number) : Prop :=
  ∀ x y v w, base.toReal = .ok x → exponent.toReal = .ok y → Double.HasValue x v →
    Double.HasValue y w → v ≠ 0 →
      Double.IsNearest (((|v| : ℚ) : ℝ) ^ (w : ℝ)) (pow (Double.magnitude x) y)

/-- The doubles of the operands have a power that is beyond the limit. -/
def RoundedOverflows (base exponent : Number) : Prop :=
  ∃ x y v w, base.toReal = .ok x ∧ exponent.toReal = .ok y ∧ Double.HasValue x v ∧
    Double.HasValue y w ∧ (overflowLimit : ℝ) ≤ ((|v| : ℚ) : ℝ) ^ (w : ℝ)

/-- The value is an infinity, negative or positive. -/
def IsInfinity (negative : Bool) (r : Except Fault Value) : Prop :=
  ∃ x, r = .ok (.real x) ∧ Double.exact x = .infinite negative

theorem eq_of_normalize_eq_real {x y : Float} (h : (Number.real x).normalize = .real y) :
    x = y := by
  unfold Number.normalize at h
  dsimp only at h
  split at h
  · split at h <;> cases h
    rfl
  · cases h
    rfl

theorem IsInfinity.unique {s t : Bool} {r : Except Fault Value} (h : IsInfinity s r)
    (h' : IsInfinity t r) : s = t := by
  obtain ⟨x, rfl, hx⟩ := h
  obtain ⟨y, hy, hexact⟩ := h'
  cases hy
  rw [hx] at hexact
  cases hexact
  rfl

/-- The normal form of a finite double is no infinity. -/
theorem not_isInfinity_normalize {r : Float} (h : Double.isInfinite r = false) (s : Bool) :
    ¬IsInfinity s (.ok (.num (Number.real r).normalize)) := by
  rintro ⟨x, hx, hexact⟩
  obtain rfl := eq_of_normalize_eq_real (Value.num.inj (Except.ok.inj hx))
  rw [Double.isInfinite, hexact] at h
  cases h

section Operands

variable {base exponent : Number} {b e : ℚ}

theorem hasOddExponent_num (he : exponent.HasValue e) :
    ∃ odd, hasOddExponent (.num exponent) = .ok odd ∧
      (odd = true ↔ ∃ n : ℤ, e = n ∧ n % 2 = 1) := by
  have hiff : ∀ k : ℤ, e = k → ((k % 2 == 1) = true ↔ ∃ n : ℤ, e = n ∧ n % 2 = 1) := by
    rintro k rfl
    rw [beq_iff_eq]
    exact ⟨fun h => ⟨k, rfl, h⟩, fun ⟨n, h, hn⟩ => by rwa [Int.cast_injective h]⟩
  cases exponent with
  | int k => exact ⟨k % 2 == 1, rfl, hiff k he⟩
  | real y =>
    have hvalue : ∀ n, Double.integer? y = some n ↔ e = n := fun n =>
      Double.HasValue.integer?_eq_some_iff he
    refine ⟨Double.isOddInteger y, rfl, ?_⟩
    unfold Double.isOddInteger
    cases hy : Double.integer? y with
    | none =>
      refine iff_of_false Bool.false_ne_true ?_
      rintro ⟨n, h, -⟩
      rw [(hvalue n).mpr h] at hy
      cases hy
    | some m => exact hiff m ((hvalue m).mp hy)

/-- An infinity is negative for a negative base and an odd exponent. -/
theorem overflowedPower_spec (hb : base.HasValue b) (he : exponent.HasValue e) :
    ∃ s, IsInfinity s (overflowedPower (.num base) (.num exponent)) ∧
      (s = true ↔ b < 0 ∧ ∃ n : ℤ, e = n ∧ n % 2 = 1) := by
  obtain ⟨odd, hodd, hiff⟩ := hasOddExponent_num he
  have hless := hb.less_iff (show (Number.int 0).HasValue 0 from Int.cast_zero.symm)
  have hresult : overflowedPower (.num base) (.num exponent) =
      .ok (.real (if base.less (.int 0) && odd then Double.negativeInfinity
        else Double.infinity)) := by
    unfold overflowedPower
    rw [hodd, ok_bind, Value.int, Value.ordered_num, ok_bind]
    have hholds : Value.Relation.less.holds (base.compare? (.int 0)) = base.less (.int 0) := by
      unfold Number.less
      cases base.compare? (.int 0) <;> rfl
    rw [hholds]
    rfl
  refine ⟨base.less (.int 0) && odd, ⟨_, hresult, ?_⟩, ?_⟩
  · cases base.less (.int 0) && odd <;> decide
  · rw [Bool.and_eq_true, hless, hiff]

/-- Rounded operands overflow only with a base other than zero. -/
theorem RoundedOverflows.ne_zero (hb : base.HasValue b) (h : RoundedOverflows base exponent) :
    b ≠ 0 := by
  obtain ⟨x, y, v, w, hx, -, hxv, -, hover⟩ := h
  rintro rfl
  obtain ⟨x', v', hx', hxv', -, hzero, -⟩ | ⟨hx', -⟩ := hb.toReal_cases
  · rw [hx] at hx'
    cases hx'
    obtain rfl : v = 0 := by
      rw [hxv.unique hxv', hzero]
    rw [abs_zero, Rat.cast_zero] at hover
    exact absurd (hover.trans (Real.zero_rpow_le_one _)) (not_le.mpr Double.one_lt_overflowLimit)
  · rw [hx] at hx'
    cases hx'

variable {pow : Float → Float → Float}

theorem convertToReal_num (n : Number) : (Value.num n).convertToReal = n.toReal := rfl

/-- An operand to which no double is near is answered as an overflow, whatever the other is. -/
theorem powerWith_of_large (hb : base.HasValue b) (he : exponent.HasValue e)
    (h : (overflowLimit : ℚ) ≤ |b| ∨ (overflowLimit : ℚ) ≤ |e|) :
    powerWith pow (.num base) (.num exponent) = overflowedPower (.num base) (.num exponent) := by
  unfold powerWith
  rw [convertToReal_num, convertToReal_num]
  obtain ⟨x, -, hx, -, hblt, -⟩ | ⟨hx, -⟩ := hb.toReal_cases
  · obtain ⟨-, -, -, -, helt, -⟩ | ⟨hy, -⟩ := he.toReal_cases
    · exact absurd h (not_or.mpr ⟨not_le.mpr hblt, not_le.mpr helt⟩)
    · rw [hx, hy]
      rfl
  · rw [hx]
    rfl

theorem isInfinity_of_large (hb : base.HasValue b) (he : exponent.HasValue e)
    (h : (overflowLimit : ℚ) ≤ |b| ∨ (overflowLimit : ℚ) ≤ |e|) (h0 : 0 < b) :
    IsInfinity false (powerWith pow (.num base) (.num exponent)) := by
  obtain ⟨s, hs, hsign⟩ := overflowedPower_spec hb he
  obtain rfl : s = false := by
    cases s with
    | false => rfl
    | true => exact absurd (hsign.mp rfl).1 (not_lt.mpr h0.le)
  rw [powerWith_of_large hb he h]
  exact hs

/-- A power is an infinity with the sign of an overflow, the positive one for the pole of zero, or
    no infinity. -/
theorem powerWith_cases (hb : base.HasValue b) (he : exponent.HasValue e)
    (hpow : RoundsToNearest pow base exponent) :
    powerWith pow (.num base) (.num exponent) = overflowedPower (.num base) (.num exponent) ∧
      ((overflowLimit : ℚ) ≤ |b| ∨ (overflowLimit : ℚ) ≤ |e| ∨ RoundedOverflows base exponent) ∨
    IsInfinity false (powerWith pow (.num base) (.num exponent)) ∧ b = 0 ∧ e < 0 ∨
    (∀ s, ¬IsInfinity s (powerWith pow (.num base) (.num exponent))) ∧
      ¬((overflowLimit : ℚ) ≤ |b| ∨ (overflowLimit : ℚ) ≤ |e| ∨ RoundedOverflows base exponent ∨
        b = 0 ∧ e < 0) := by
  obtain ⟨x, v, hx, hxv, hblt, hbzero, -⟩ | ⟨-, hlarge⟩ := hb.toReal_cases
  swap
  · exact .inl ⟨powerWith_of_large hb he (.inl hlarge), .inl hlarge⟩
  obtain ⟨y, w, hy, hyw, helt, -, heneg⟩ | ⟨-, hlarge⟩ := he.toReal_cases
  swap
  · exact .inl ⟨powerWith_of_large hb he (.inr hlarge), .inr (.inl hlarge)⟩
  unfold powerWith
  rw [convertToReal_num, convertToReal_num]
  rw [hx, hy, ok_bind, ok_bind, pure_eq_ok]
  obtain ⟨h, hv, hw⟩ | ⟨h, hv, hover⟩ | ⟨h, hpole, hlt⟩ :=
    Double.power_spec hxv hyw (hpow x y v w hx hy hxv hyw)
  · rw [h]
    exact .inr (.inl ⟨⟨_, rfl, by decide⟩, hbzero.mp hv, heneg.mp hw⟩)
  · rw [h]
    exact .inl ⟨rfl, .inr (.inr ⟨x, y, v, w, hx, hy, hxv, hyw, hover⟩)⟩
  · refine .inr (.inr ⟨?_, ?_⟩)
    · obtain h | ⟨r, h, hfinite⟩ := h
      · rw [h]
        rintro s ⟨z, hz, -⟩
        cases hz
      · rw [h]
        exact fun s => not_isInfinity_normalize hfinite s
    · rintro (hle | hle | ⟨x', y', v', w', hx', hy', hxv', hyw', hover⟩ | ⟨h0, hneg⟩)
      · exact absurd hle (not_le.mpr hblt)
      · exact absurd hle (not_le.mpr helt)
      · rw [hx] at hx'
        rw [hy] at hy'
        cases hx'
        cases hy'
        rw [hxv.unique hxv', hyw.unique hyw'] at hlt
        exact absurd hover (not_le.mpr hlt)
      · exact hpole ⟨hbzero.mpr h0, heneg.mpr hneg⟩

/-- The operands for which an infinity stands for a power that overflows. -/
structure InfinityIsDue (base exponent : Number) (b e : ℚ) : Prop where
  /-- An exponent to which no double is near lies on the side of the base. -/
  exponent_side : (overflowLimit : ℚ) ≤ |e| → 1 < |b| ∧ 0 < e ∨ |b| < 1 ∧ e < 0
  /-- The power of a base to which no double is near overflows. -/
  base_overflows : (overflowLimit : ℚ) ≤ |b| → |e| < overflowLimit → PowerOverflows b e
  /-- If the doubles of the operands overflow, so do the operands. -/
  rounded_overflows : RoundedOverflows base exponent → PowerOverflows b e

/-- Only integers are beyond the limit. -/
theorem exists_int_of_large (he : exponent.HasValue e) (h : (overflowLimit : ℚ) ≤ |e|) :
    ∃ n : ℤ, e = n := by
  cases exponent with
  | int n => exact ⟨n, he⟩
  | real y => exact absurd h (not_le.mpr (Double.HasValue.abs_lt he))

/-- An infinity that no pole explains is due exactly where the power overflows. -/
theorem infinityIsDue_iff (hb : base.HasValue b) (he : exponent.HasValue e) :
    InfinityIsDue base exponent b e ↔
      ((overflowLimit : ℚ) ≤ |b| ∨ (overflowLimit : ℚ) ≤ |e| ∨ RoundedOverflows base exponent →
        PowerOverflows b e ∨ b = 0 ∧ e < 0) := by
  have hside : (overflowLimit : ℚ) ≤ |e| → b ≠ 0 →
      (PowerOverflows b e ↔ 1 < |b| ∧ 0 < e ∨ |b| < 1 ∧ e < 0) := by
    intro hle hb0
    obtain ⟨n, rfl⟩ := exists_int_of_large he hle
    exact powerOverflows_iff_side hb hb0 hle
  constructor
  · rintro ⟨hexponent, hbase, hrounded⟩ hcause
    by_cases hle : (overflowLimit : ℚ) ≤ |e|
    · by_cases hb0 : b = 0
      · obtain ⟨h, -⟩ | ⟨-, h⟩ := hexponent hle
        · rw [hb0, abs_zero] at h
          exact absurd h (by norm_num)
        · exact .inr ⟨hb0, h⟩
      · exact .inl ((hside hle hb0).mpr (hexponent hle))
    · obtain h | h | h := hcause
      · exact .inl (hbase h (not_le.mp hle))
      · exact absurd h hle
      · exact .inl (hrounded h)
  · intro h
    refine ⟨fun hle => ?_, fun hle _ => ?_, fun hover => ?_⟩
    · obtain hover | ⟨rfl, hneg⟩ := h (.inr (.inl hle))
      · exact (hside hle hover.ne_zero).mp hover
      · exact .inr ⟨by rw [abs_zero]; exact zero_lt_one, hneg⟩
    · refine (h (.inl hle)).resolve_right ?_
      rintro ⟨rfl, -⟩
      have hpos : (0 : ℚ) < overflowLimit := by
        exact_mod_cast zero_lt_one.trans Double.one_lt_overflowLimit
      rw [abs_zero] at hle
      exact absurd hle (not_le.mpr hpos)
    · exact (h (.inr (.inr hover))).resolve_right fun hpole => hover.ne_zero hb hpole.1

/-- For doubles, and for integers that doubles tell apart, only a negative base with a fractional
    exponent is answered with an infinity that is not due. -/
theorem infinityIsDue_iff_of_exact {x y : Float} (hx : base.toReal = .ok x)
    (hy : exponent.toReal = .ok y) (hxb : Double.HasValue x b) (hye : Double.HasValue y e) :
    InfinityIsDue base exponent b e ↔
      (b < 0 → (overflowLimit : ℝ) ≤ ((|b| : ℚ) : ℝ) ^ (e : ℝ) → ∃ n : ℤ, e = n) := by
  have hrounded : RoundedOverflows base exponent ↔
      (overflowLimit : ℝ) ≤ ((|b| : ℚ) : ℝ) ^ (e : ℝ) := by
    constructor
    · rintro ⟨x', y', v, w, hx', hy', hxv, hyw, hover⟩
      rw [hx] at hx'
      rw [hy] at hy'
      cases hx'
      cases hy'
      rwa [hxb.unique hxv, hye.unique hyw]
    · exact fun h => ⟨x, y, b, e, hx, hy, hxb, hye, h⟩
  constructor
  · exact fun h hneg hover => (h.rounded_overflows (hrounded.mpr hover)).1 hneg
  · intro h
    exact ⟨fun hle => absurd hle (not_le.mpr hye.abs_lt),
      fun hle => absurd hle (not_le.mpr hxb.abs_lt),
      fun hover => ⟨fun hneg => h hneg (hrounded.mp hover), hrounded.mp hover⟩⟩

/-- A power is infinite for an operand to which no double is near, where the rounded operands
    overflow, and for zero to a negative power. It is negative for a negative base and an odd
    exponent. It stands for a power that overflows, or for that of zero, exactly where this is
    due. -/
theorem powerWith_infinite_iff (hb : base.HasValue b) (he : exponent.HasValue e)
    (hpow : RoundsToNearest pow base exponent) :
    ((∃ s, IsInfinity s (powerWith pow (.num base) (.num exponent))) ↔
      (overflowLimit : ℚ) ≤ |b| ∨ (overflowLimit : ℚ) ≤ |e| ∨ RoundedOverflows base exponent ∨
        b = 0 ∧ e < 0) ∧
    (∀ s, IsInfinity s (powerWith pow (.num base) (.num exponent)) →
      (s = true ↔ b < 0 ∧ ∃ n : ℤ, e = n ∧ n % 2 = 1)) ∧
    ((∀ s, IsInfinity s (powerWith pow (.num base) (.num exponent)) →
      PowerOverflows b e ∨ b = 0 ∧ e < 0) ↔ InfinityIsDue base exponent b e) := by
  rw [infinityIsDue_iff hb he]
  obtain ⟨h, hcause⟩ | ⟨h, hpole⟩ | ⟨h, hnone⟩ := powerWith_cases hb he hpow
  · obtain ⟨s, hs, hsign⟩ := overflowedPower_spec hb he
    rw [h]
    refine ⟨iff_of_true ⟨s, hs⟩ (by tauto), fun t ht => ht.unique hs ▸ hsign, ?_⟩
    exact ⟨fun hdue _ => hdue s hs, fun hdue _ _ => hdue hcause⟩
  · refine ⟨iff_of_true ⟨false, h⟩ (.inr (.inr (.inr hpole))), fun t ht => ?_,
      iff_of_true (fun _ _ => .inr hpole) fun _ => .inr hpole⟩
    rw [ht.unique h, hpole.1]
    exact iff_of_false Bool.false_ne_true fun hneg => lt_irrefl _ hneg.1
  · refine ⟨iff_of_false (fun ⟨s, hs⟩ => h s hs) hnone, fun s hs => absurd hs (h s),
      iff_of_true (fun s hs => absurd hs (h s)) fun hcause => absurd ?_ hnone⟩
    tauto

end Operands

/-- The power 1025 of two rounds to the infinity. -/
theorem isNearest_two_pow :
    Double.IsNearest (((|(-2 : ℚ)| : ℚ) : ℝ) ^ ((1025 : ℚ) : ℝ)) Double.infinity := by
  have hpow : ((|(-2 : ℚ)| : ℚ) : ℝ) ^ ((1025 : ℚ) : ℝ) = 2 ^ 52 * 2 ^ (973 : ℤ) := by
    have h2 : ((|(-2 : ℚ)| : ℚ) : ℝ) = 2 := by norm_num
    have hn : ((1025 : ℚ) : ℝ) = (52 : ℕ) + ((973 : ℤ) : ℝ) := by norm_num
    rw [h2, hn, Real.rpow_add two_pos, Real.rpow_natCast, Real.rpow_intCast]
  have hp : (0 : ℝ) < 2 ^ (973 : ℤ) := zpow_pos two_pos _
  rw [hpow]
  refine ⟨2 ^ 52, 973, ⟨by norm_num, by norm_num, .inl le_rfl⟩, by decide, ?_, ?_, ?_⟩
  · refine mul_le_mul_of_nonneg_right ?_ hp.le
    have := Double.gapBelow_pos (2 ^ 52) 973
    have : (((2 ^ 52 : ℕ) - Double.gapBelow (2 ^ 52) 973 : ℚ)) ≤ 2 ^ 52 := by
      push_cast
      linarith
    exact_mod_cast this
  · refine mul_le_mul_of_nonneg_right ?_ hp.le
    norm_num
  · exact fun _ => by norm_num

theorem powerWith_infinite_neg_two :
    (Number.int (-2)).HasValue (-2) ∧ (Number.int 1025).HasValue 1025 ∧
    RoundsToNearest (fun _ _ => Double.infinity) (.int (-2)) (.int 1025) ∧
    IsInfinity true (powerWith (fun _ _ => Double.infinity) (.int (-2)) (.int 1025)) ∧
    (PowerOverflows (-2) 1025 ∨ (-2 : ℚ) = 0 ∧ (1025 : ℚ) < 0) := by
  have hb : (Number.int (-2)).HasValue (-2) := by norm_num [Number.HasValue]
  have he : (Number.int 1025).HasValue 1025 := by norm_num [Number.HasValue]
  obtain ⟨x, hx, hxb⟩ := hb.exists_toReal ⟨-2, 0, by norm_num, by decide, by decide, by decide⟩
  obtain ⟨y, hy, hye⟩ := he.exists_toReal ⟨1025, 0, by norm_num, by decide, by decide, by decide⟩
  have hpow : RoundsToNearest (fun _ _ => Double.infinity) (.int (-2)) (.int 1025) := by
    intro x' y' v w hx' hy' hxv hyw _
    rw [hx] at hx'
    rw [hy] at hy'
    cases hx'
    cases hy'
    rw [hxv.unique hxb, hyw.unique hye]
    exact isNearest_two_pow
  have hdue : InfinityIsDue (.int (-2)) (.int 1025) (-2) 1025 :=
    (infinityIsDue_iff_of_exact hx hy hxb hye).mpr fun _ _ => ⟨1025, by norm_num⟩
  obtain ⟨hinfinite, hsign, hiff⟩ := powerWith_infinite_iff hb he hpow
  obtain ⟨s, hs⟩ := hinfinite.mpr (.inr (.inr (.inl
    ⟨x, y, -2, 1025, hx, hy, hxb, hye, isNearest_two_pow.isInfinite_iff.mp (by decide)⟩)))
  obtain rfl : s = true :=
    (hsign s hs).mpr ⟨by norm_num, 1025, by norm_num, by decide⟩
  exact ⟨hb, he, hpow, hs, hiff.mpr hdue true hs⟩

theorem overflowLimit_le_ten_pow {k : ℕ} (hk : 342 ≤ k) :
    (overflowLimit : ℚ) ≤ |((10 ^ k : ℤ) : ℚ)| := by
  obtain ⟨e, he⟩ : ∃ e, e = 970 := ⟨970, rfl⟩
  have hle : overflowLimit ≤ 10 ^ k := by
    rw [Double.overflowLimit_eq he]
    calc (2 ^ 54 - 1) * 2 ^ e ≤ 2 ^ (54 + e) := (Double.limit_bounds e).2
      _ ≤ 2 ^ (3 * k) := Nat.pow_le_pow_right two_pos (by omega)
      _ = 8 ^ k := by rw [Nat.pow_mul]
      _ ≤ 10 ^ k := Nat.pow_le_pow_left (by norm_num) k
  rw [Int.cast_pow, abs_of_nonneg (by positivity)]
  exact_mod_cast hle

/-- One half to the power `10^400`, and `10^400` to the power minus one, are close to zero, but
    answered with an infinity. -/
theorem not_power_infinite :
    (Number.real Double.half).HasValue (1 / 2) ∧
    IsInfinity false (power (.real Double.half) (.int (10 ^ 400))) ∧
    ¬PowerOverflows (1 / 2) ((10 ^ 400 : ℤ) : ℚ) ∧
    IsInfinity false (power (.int (10 ^ 400)) (.int (-1))) ∧
    ¬PowerOverflows ((10 ^ 400 : ℤ) : ℚ) ((-1 : ℤ) : ℚ) := by
  obtain ⟨k, hk⟩ : ∃ k, k = 400 := ⟨400, rfl⟩
  rw [← hk]
  have hlarge := overflowLimit_le_ten_pow (k := k) (by omega)
  have hhalf : (Number.real Double.half).HasValue (1 / 2) := Double.hasValue_half
  have hint : ∀ n : ℤ, (Number.int n).HasValue n := fun _ => rfl
  have hpositive : (0 : ℚ) < ((10 ^ k : ℤ) : ℚ) := by
    rw [Int.cast_pow]
    positivity
  refine ⟨hhalf, isInfinity_of_large hhalf (hint _) (.inr hlarge) (by norm_num), ?_,
    isInfinity_of_large (hint _) (hint _) (.inl hlarge) hpositive, ?_⟩
  · rw [powerOverflows_iff_side hhalf (by norm_num) hlarge]
    rintro (⟨h, -⟩ | ⟨-, h⟩)
    · norm_num at h
    · exact absurd h (not_lt.mpr hpositive.le)
  · rw [powerOverflows_iff_pos hlarge]
    decide

end TokenFormula
