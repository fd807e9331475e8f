import TokenFormula.Proofs.Number.Division
import TokenFormula.Proofs.Sequence

/-!
# The rational that a number equals

Numbers are compared by the rationals that they equal. Where integers and doubles meet,
a result has the exact value as long as all operands and the result are representable.

Results:
* `HasValue`: a finite number and the rational that it equals.
* `HasValue.less_iff`, `HasValue.normalize`: order and normal form.
* `HasValue.add`, `HasValue.sub`, `HasValue.mul`: arithmetic with a representable result.
* `HasValue.le_floor_of_divide`: the floor of a quotient, from below.
-/

namespace TokenFormula.Number

open Double (withSign Representable)

/-- The number is finite and equals the rational. -/
def HasValue : Number → ℚ → Prop
  | int k, v => v = k
  | real x, v => Double.HasValue x v

section Order

variable {a b : Number} {v w : ℚ}

theorem HasValue.exists_exact (h : a.HasValue v) :
    ∃ s m q, a.exact = .finite s m q ∧ v = withSign s m * 2 ^ q := by
  cases a with
  | int k => exact ⟨_, _, 0, rfl, by rw [withSign_natAbs, zpow_zero, Rat.mul_one]; exact h⟩
  | real x => exact h

theorem compareScaled_lt_iff {s t : Bool} {m k : ℕ} {q e : ℤ} :
    Double.compareScaled s m q t k e = .lt ↔
      (withSign s m * 2 ^ q : ℚ) < withSign t k * 2 ^ e := by
  have hscale : ∀ (z i : ℤ), min q e ≤ i →
      (z * 2 ^ i : ℚ) = (z * 2 ^ (i - min q e).toNat : ℤ) * 2 ^ min q e := by
    intro z i hi
    obtain ⟨j, hj⟩ : ∃ j : ℕ, i = min q e + j := ⟨(i - min q e).toNat, by omega⟩
    rw [show (i - min q e).toNat = j by omega]
    conv_lhs => rw [hj, zpow_add₀ (by norm_num), zpow_natCast]
    push_cast
    ring
  unfold Double.compareScaled
  rw [hscale _ q (min_le_left ..), hscale _ e (min_le_right ..),
    mul_lt_mul_iff_left₀ (Double.two_zpow_pos _), Int.cast_lt]
  exact compare_lt_iff_lt

/-- Numbers are compared by their values. -/
theorem HasValue.less_iff (ha : a.HasValue v) (hb : b.HasValue w) :
    a.less b = true ↔ v < w := by
  obtain ⟨s, m, q, hea, rfl⟩ := ha.exists_exact
  obtain ⟨t, k, e, heb, rfl⟩ := hb.exists_exact
  have hless : a.less b = (some (Double.compareScaled s m q t k e) == some .lt) := by
    unfold less compare?
    rw [hea, heb]
    rfl
  rw [hless, beq_iff_eq, Option.some_inj]
  exact compareScaled_lt_iff

theorem HasValue.normalize (h : a.HasValue v) : a.normalize.HasValue v := by
  cases a with
  | int k => exact h
  | real x =>
    unfold Number.normalize
    dsimp only
    split
    · rename_i k hk
      split
      · obtain ⟨s, m, q, c, hx, hc, rfl⟩ := exists_of_integer? hk
        obtain ⟨s', m', q', hx', rfl⟩ := h
        rw [hx] at hx'
        cases hx'
        have hvalue : (m * 2 ^ q : ℚ) = c * 2 ^ (0 : ℤ) := by
          have hscale := Double.zpow_eq_div (b := 2) (by norm_num) q
          rw [Nat.cast_ofNat] at hscale
          rw [hscale, zpow_zero, Rat.mul_one, ← mul_div_assoc, div_eq_iff (by positivity)]
          exact_mod_cast hc
        show (withSign s m * 2 ^ q : ℚ) = (withSign s c : ℤ)
        rw [Double.withSign_value_eq s hvalue, zpow_zero, Rat.mul_one]
      · exact h
    · exact h

end Order

/-! ## Arithmetic -/

section Arithmetic

variable {a b : Number} {v w : ℚ}

theorem exact_ofInt {k : ℤ} (hk : k ≠ 0) {s : Bool} {m : ℕ} {q : ℤ}
    (hc : (Double.Exact.finite s m q).Canonical) (h : (k : ℚ) = withSign s m * 2 ^ q) :
    ∃ x, Double.ofInt? k = some x ∧ Double.exact x = .finite s m q := by
  have hk' : k.natAbs ≠ 0 := Int.natAbs_ne_zero.mpr hk
  rw [← withSign_natAbs k, ← Rat.mul_one (withSign _ _ : ℤ), ← zpow_zero (2 : ℚ)] at h
  obtain ⟨rfl, hvalue⟩ := Double.eq_of_withSign_value_eq hk' h
  rw [zpow_zero, Rat.mul_one] at hvalue
  have hm : m ≠ 0 := by
    rintro rfl
    rw [Nat.cast_zero, Rat.zero_mul] at hvalue
    exact hk' (by exact_mod_cast hvalue)
  have hround : Double.RoundsTo m q ((k.natAbs : ℕ) / (1 : ℕ)) := by
    rw [Nat.cast_one, div_one, hvalue]
    exact Double.roundsTo_self m q
  have hfits := hround.overflows_eq_false hc hm Nat.one_pos
  refine ⟨_, ?_, hround.exact_ofQuotient hc hm Nat.one_pos⟩
  unfold Double.ofInt?
  rw [hfits]
  rfl

/-- A representable number is converted to a double without rounding. -/
theorem HasValue.exists_toReal (h : a.HasValue v) (hv : Representable v) :
    ∃ x, a.toReal = .ok x ∧ Double.HasValue x v := by
  cases a with
  | real x => exact ⟨x, rfl, h⟩
  | int k =>
    obtain rfl : v = k := h
    by_cases hk : k = 0
    · subst hk
      exact ⟨_, rfl, false, 0, -1074, Double.exact_zero, by simp [withSign]⟩
    obtain ⟨s, m, q, hc, hvalue⟩ := hv.exists_canonical
    obtain ⟨x, hx, hexact⟩ := exact_ofInt hk hc hvalue
    refine ⟨x, ?_, s, m, q, hexact, hvalue⟩
    unfold toReal
    dsimp only
    rw [hx]

/-- An operation without rounding on doubles is one on numbers. -/
theorem HasValue.arithmetic {onInt : ℤ → ℤ → ℤ} {onReal : Float → Float → Float}
    (onRat : ℚ → ℚ → ℚ) (ha : a.HasValue v) (hb : b.HasValue w) (hv : Representable v)
    (hw : Representable w) (hint : ∀ j k : ℤ, onRat j k = (onInt j k : ℤ))
    (hreal : ∀ x y, Double.HasValue x v → Double.HasValue y w →
      Double.HasValue (onReal x y) (onRat v w)) :
    ∃ c, Number.arithmetic onInt onReal a b = .ok c ∧ c.HasValue (onRat v w) := by
  obtain ⟨x, hax, hx⟩ := ha.exists_toReal hv
  obtain ⟨y, hby, hy⟩ := hb.exists_toReal hw
  have hdouble : (do
      let x ← a.toReal
      let y ← b.toReal
      return real (onReal x y)) = Except.ok (real (onReal x y)) := by
    rw [hax, hby]
    rfl
  cases a with
  | int j =>
    cases b with
    | int k =>
      obtain rfl : v = j := ha
      obtain rfl : w = k := hb
      exact ⟨_, rfl, hint j k⟩
    | real => exact ⟨_, hdouble, hreal x y hx hy⟩
  | real => exact ⟨_, hdouble, hreal x y hx hy⟩

theorem HasValue.add (ha : a.HasValue v) (hb : b.HasValue w) (hv : Representable v)
    (hw : Representable w) (h : Representable (v + w)) :
    ∃ c, a.add b = .ok c ∧ c.HasValue (v + w) :=
  ha.arithmetic (· + ·) hb hv hw (fun j k => (Int.cast_add j k).symm)
    fun _ _ hx hy => hx.add hy h

theorem HasValue.sub (ha : a.HasValue v) (hb : b.HasValue w) (hv : Representable v)
    (hw : Representable w) (h : Representable (v - w)) :
    ∃ c, a.sub b = .ok c ∧ c.HasValue (v - w) :=
  ha.arithmetic (· - ·) hb hv hw (fun j k => (Int.cast_sub j k).symm)
    fun _ _ hx hy => hx.sub hy h

theorem HasValue.mul (ha : a.HasValue v) (hb : b.HasValue w) (hv : Representable v)
    (hw : Representable w) (h : Representable (v * w)) :
    ∃ c, a.mul b = .ok c ∧ c.HasValue (v * w) :=
  ha.arithmetic (· * ·) hb hv hw (fun j k => (Int.cast_mul j k).symm)
    fun _ _ hx hy => hx.mul hy h

/-- The floor of a quotient is at least every integer up to `2^53` that the exact
    quotient is not below. -/
theorem HasValue.le_floor_of_divide {n : ℕ} {k : ℤ} {c : Number} (ha : a.HasValue v)
    (hb : b.HasValue w) (hv : Representable v) (hw : Representable w) (hpos : 0 < w)
    (hn : n ≤ 2 ^ 53) (h : n * w ≤ v) (hdivide : a.divide b = .ok c)
    (hfloor : c.floor = .ok k) : n ≤ k := by
  have hdouble : (do
      let x ← a.toReal
      let y ← b.toReal
      if Double.isZero y then throw .zeroQuotient
      return real (x / y)) = Except.ok c → n ≤ k := by
    obtain ⟨x, hax, hx⟩ := ha.exists_toReal hv
    obtain ⟨y, hby, hy⟩ := hb.exists_toReal hw
    rw [hax, hby, ok_bind, ok_bind]
    intro hc
    split at hc
    · cases hc
    · obtain rfl := Except.ok.inj hc
      exact Double.le_floor_div hx hy hpos hn h hfloor
  cases a with
  | int i =>
    cases b with
    | int j =>
      obtain rfl : v = i := ha
      obtain rfl : w = j := hb
      exact le_floor_of_divide_int (by exact_mod_cast hpos) hn (by exact_mod_cast h)
        hdivide hfloor
    | real => exact hdouble hdivide
  | real => exact hdouble hdivide

end Arithmetic

end TokenFormula.Number
