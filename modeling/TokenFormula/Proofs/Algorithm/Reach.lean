import TokenFormula.Proofs.Number.Rational
import TokenFormula.Proofs.Algorithm.Progression

/-!
# Values that a range reaches

The values of a range are rounded one by one, the number of its places is the floor of a
rounded quotient of a rounded difference. Where these disagree, the loop can end before a
value that does not exceed the last one. Nothing is left out where nothing is rounded but
the quotient: over integers, and over multiples of one power of two.

Results:
* `OnGrid`: the bounds and the step are small multiples of one power of two.
* `values_isSeries_iff`: the values of a range, and when none is left out.
* `not_values_isSeries`: a range that does not reach its last value.
-/

namespace TokenFormula.IterationRange

open Double (Representable)

/-! ## Ranges over a grid -/

/-- The bounds and the step of the range are multiples of one power of two by small
    integers. -/
structure OnGrid (r : IterationRange) (a b c q : ℤ) : Prop where
  first : r.first.HasValue (a * 2 ^ q)
  last : r.last.HasValue (b * 2 ^ q)
  step : r.step.HasValue (c * 2 ^ q)
  small : a.natAbs ≤ 2 ^ 51 ∧ b.natAbs ≤ 2 ^ 51 ∧ c.natAbs ≤ 2 ^ 51
  exponent : -1074 ≤ q ∧ q ≤ 970

section Grid

variable {r : IterationRange} {a b c q : ℤ}

theorem OnGrid.representable (h : r.OnGrid a b c q) {z : ℤ} (hz : z.natAbs ≤ 2 ^ 53) :
    Representable (z * 2 ^ q) :=
  ⟨z, q, rfl, hz, h.exponent.1, h.exponent.2⟩

/-- Values on the grid are not rounded. -/
theorem OnGrid.value (h : r.OnGrid a b c q) {k : ℕ} (hk : k ≤ 2 ^ 53)
    (hoffset : (k * c).natAbs ≤ 2 ^ 53) (hvalue : (a + k * c).natAbs ≤ 2 ^ 53) :
    ∃ v, r.value k = .ok v ∧ v.HasValue ((a + k * c : ℤ) * 2 ^ q) := by
  obtain ⟨ha, -, hc⟩ := h.small
  have hplace : (Number.int k).HasValue k := (Int.cast_natCast k).symm
  have hk' : Representable k := ⟨k, 0, by simp, by simpa using hk, by decide, by decide⟩
  have hmul : (k * (c * 2 ^ q) : ℚ) = (k * c : ℤ) * 2 ^ q := by
    push_cast
    ring
  have hadd : (a * 2 ^ q + (k * c : ℤ) * 2 ^ q : ℚ) = (a + k * c : ℤ) * 2 ^ q := by
    push_cast
    ring
  obtain ⟨offset, hoff, hov⟩ :=
    hplace.mul h.step hk' (h.representable (by omega)) (hmul ▸ h.representable hoffset)
  rw [hmul] at hov
  obtain ⟨v, hv, hvv⟩ := h.first.add hov (h.representable (by omega)) (h.representable hoffset)
    (hadd ▸ h.representable hvalue)
  rw [hadd] at hvv
  refine ⟨v.normalize, ?_, hvv.normalize⟩
  unfold IterationRange.value
  rw [hoff, ok_bind, hv]
  rfl

theorem OnGrid.less_iff (h : r.OnGrid a b c q) {v : Number} {z : ℤ} (hv : v.HasValue (z * 2 ^ q)) :
    r.last.less v = true ↔ b < z := by
  rw [h.last.less_iff hv, mul_lt_mul_iff_left₀ (Double.two_zpow_pos q), Int.cast_lt]

/-- The count over a grid is not too small. -/
theorem OnGrid.le_count (h : r.OnGrid a b c q) (hc : 0 < c) {n : ℕ} (hn : n * c ≤ b - a)
    {k : ℤ} (hcount : r.count = .ok k) : n + 1 ≤ k := by
  obtain ⟨ha, hb, hc'⟩ := h.small
  have hsub : (b * 2 ^ q - a * 2 ^ q : ℚ) = (b - a : ℤ) * 2 ^ q := by
    push_cast
    ring
  obtain ⟨length, hlength, hlv⟩ := h.last.sub h.first (h.representable (by omega))
    (h.representable (by omega)) (hsub ▸ h.representable (by omega))
  rw [hsub] at hlv
  unfold count at hcount
  rw [hlength, ok_bind] at hcount
  obtain ⟨quotient, hquotient, hcount⟩ := bind_eq_ok hcount
  obtain ⟨j, hj, hcount⟩ := bind_eq_ok hcount
  obtain rfl := Except.ok.inj hcount
  have hnc : (n : ℤ) ≤ n * c := le_mul_of_one_le_right (Int.natCast_nonneg n) hc
  have hle : (n * (c * 2 ^ q) : ℚ) ≤ (b - a : ℤ) * 2 ^ q := by
    rw [← mul_assoc]
    exact mul_le_mul_of_nonneg_right (by exact_mod_cast hn) (Double.two_zpow_pos q).le
  have hfloor := hlv.le_floor_of_divide h.step (h.representable (by omega))
    (h.representable (by omega)) (mul_pos (by exact_mod_cast hc) (Double.two_zpow_pos q))
    (by omega) hle hquotient hj
  omega

/-- The loop over a grid looks at the first place past the end, which is the one after
    the exact quotient. -/
theorem OnGrid.exists_pastEnd (h : r.OnGrid a b c q) {limit : ℤ} {ns : List Number}
    (hvalues : r.values limit = .ok ns) : ∃ k ≤ r.looked, r.PastEnd k := by
  obtain ⟨ha, hb, hc'⟩ := h.small
  have hc : 0 < c := by
    have hzero : (Number.int 0).HasValue ((0 : ℤ) * 2 ^ q) := by simp [Number.HasValue]
    have hpos := (hzero.less_iff h.step).mp (exists_of_values hvalues).1
    rwa [mul_lt_mul_iff_left₀ (Double.two_zpow_pos q), Int.cast_lt] at hpos
  obtain ⟨n, hn⟩ : ∃ n, n = ((b - a) / c + 1).toNat := ⟨_, rfl⟩
  have hend : b < a + n * c := by
    have := lt_count_iff a b hc n
    omega
  have hbefore : ∀ m, n = m + 1 → a + m * c ≤ b := fun m hm =>
    (lt_count_iff a b hc m).mp (by omega)
  refine ⟨n, le_looked hvalues fun hpos => ?_, ?_⟩
  · obtain ⟨m, rfl⟩ := Nat.exists_eq_succ_of_ne_zero hpos.ne'
    have hm := hbefore m rfl
    have hmc : 0 ≤ m * c := mul_nonneg (Int.natCast_nonneg m) hc.le
    refine ⟨?_, fun k hk _ => h.le_count hc (by omega) hk⟩
    rw [← Bool.not_eq_true, h.less_iff h.first]
    omega
  · have hnc : (n : ℤ) ≤ n * c := le_mul_of_one_le_right (Int.natCast_nonneg n) hc
    have hlast : (n : ℤ) * c ≤ max 0 (b - a + c) := by
      rcases Nat.eq_zero_or_pos n with rfl | hpos
      · simp
      · obtain ⟨m, rfl⟩ := Nat.exists_eq_succ_of_ne_zero hpos.ne'
        have hm := hbefore m rfl
        push_cast
        rw [add_mul]
        omega
    obtain ⟨v, hv, hvv⟩ := h.value (k := n) (by omega) (by omega) (by omega)
    intro w hw
    obtain rfl := Except.ok.inj (hv.symm.trans hw)
    exact (h.less_iff hvv).mpr hend

end Grid

/-! ## Ranges without rounding -/

variable {r : IterationRange} {limit : ℤ} {ns : List Number}

theorem exists_pastEnd_ofInts {first last step : ℤ} (hlimit : limit ≤ Number.safeLimit)
    (hvalues : (ofInts first last step).values limit = .ok ns) :
    ∃ k ≤ (ofInts first last step).looked, (ofInts first last step).PastEnd k := by
  have hstep : 0 < step :=
    of_decide_eq_true ((Number.less_int 0 step).symm.trans (exists_of_values hvalues).1)
  have hcount := lt_count_iff first last hstep
  obtain ⟨n, hn⟩ : ∃ n, n = ((last - first) / step + 1).toNat := ⟨_, rfl⟩
  refine ⟨n, le_looked hvalues fun hpos => ?_, fun v hv => ?_⟩
  · have hle : first ≤ last := by
      have := (hcount 0).mp (by omega)
      omega
    refine ⟨(Number.less_int ..).trans (decide_eq_false (by omega)), fun c hc hcl => ?_⟩
    have := le_count hstep hle hc (by omega)
    omega
  · rw [value_ofInts] at hv
    obtain rfl := Except.ok.inj hv
    have := hcount n
    exact (Number.less_int ..).trans (decide_eq_true (by omega))

/-- Nothing is rounded in the range but the quotient: it is over integers and its values
    are counted up to `2^53`, or it is over a grid. -/
def Unrounded (r : IterationRange) (limit : ℤ) : Prop :=
  (limit ≤ Number.safeLimit ∧ ∃ first last step, r = ofInts first last step) ∨
    ∃ a b c q, r.OnGrid a b c q

/-- The values of a range are those at its first places, up to its last value. None is
    left out exactly if the loop looks as far as a place past the end; so it does where
    nothing is rounded. -/
theorem values_isSeries_iff (h : r.values limit = .ok ns) :
    r.IsInitial ns ∧ (r.IsSeries ns ↔ ∃ k ≤ r.looked, r.PastEnd k) ∧
      (r.Unrounded limit → r.IsSeries ns) := by
  have hiff := isSeries_iff h
  refine ⟨isInitial_of_values h, hiff, fun hr => hiff.mpr ?_⟩
  obtain ⟨hlimit, first, last, step, rfl⟩ | ⟨a, b, c, q, hgrid⟩ := hr
  · exact exists_pastEnd_ofInts hlimit h
  · exact hgrid.exists_pastEnd h

/-- The range over doubles that are quotients by one number. -/
def ofQuotients (first last step den : ℕ) : IterationRange :=
  ⟨.real (Double.ofQuotient false first den), .real (Double.ofQuotient false last den),
    .real (Double.ofQuotient false step den)⟩

/-- The halves from one half to three halves. -/
theorem values_isSeries_iff_halves :
    (ofQuotients 1 3 1 2).values Settings.default.maxIterations =
        .ok [.real (Double.ofQuotient false 1 2), .int 1, .real (Double.ofQuotient false 3 2)] ∧
      (ofQuotients 1 3 1 2).IsSeries
        [.real (Double.ofQuotient false 1 2), .int 1, .real (Double.ofQuotient false 3 2)] := by
  have hvalues : (ofQuotients 1 3 1 2).values Settings.default.maxIterations =
      .ok [.real (Double.ofQuotient false 1 2), .int 1, .real (Double.ofQuotient false 3 2)] := rfl
  have hgrid : (ofQuotients 1 3 1 2).OnGrid 1 3 1 (-1) := by
    refine ⟨?_, ?_, ?_, by decide, by decide⟩
    · exact ⟨false, 2 ^ 52, -53, by decide, by norm_num [Double.withSign]⟩
    · exact ⟨false, 3 * 2 ^ 51, -52, by decide, by norm_num [Double.withSign]⟩
    · exact ⟨false, 2 ^ 52, -53, by decide, by norm_num [Double.withSign]⟩
  exact ⟨hvalues, (values_isSeries_iff hvalues).2.2 (.inr ⟨_, _, _, _, hgrid⟩)⟩

/-- From 0.8 by 0.1 the value 0.9 is not past the end, and it is left out. -/
theorem not_values_isSeries :
    (ofQuotients 8 9 1 10).values Settings.default.maxIterations =
        .ok [.real (Double.ofQuotient false 8 10)] ∧
      ¬ (ofQuotients 8 9 1 10).IsSeries [.real (Double.ofQuotient false 8 10)] := by
  refine ⟨rfl, fun h => ?_⟩
  have hvalue : (ofQuotients 8 9 1 10).value 1 = .ok (.real (Double.ofQuotient false 9 10)) := rfl
  have hpast := h.pastEnd _ hvalue
  exact absurd hpast (by decide)

end TokenFormula.IterationRange
