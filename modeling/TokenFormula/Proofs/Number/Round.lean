import Mathlib.Algebra.Order.Field.Power
import Mathlib.Data.Rat.Cast.Order
import Mathlib.Tactic.FieldSimp
import Mathlib.Tactic.Linarith
import Mathlib.Tactic.NormNum
import Mathlib.Tactic.Positivity
import Mathlib.Tactic.Ring
import TokenFormula.Number.Decimal
import TokenFormula.Proofs.Number.Exact
import TokenFormula.Proofs.Number.Limit

/-!
# Decimals that round to a double

A double stands for the rationals between the midpoints to its neighbours. The
decimal that is written for a double lies in this interval, and the quotient of
naturals in it is rounded to the double.

Results:
* `RoundsTo`: the rationals that round to a double.
* `roundsTo_shortest`: the decimal that is written is one of them.
* `RoundsTo.exact_ofQuotient`: each of them is rounded to the double.
-/

namespace TokenFormula.Double

/-- A rational between two bounds, which belong to the interval if `closed` holds. -/
def Within (closed : Prop) (low high y : ℚ) : Prop :=
  (low < y ∨ closed ∧ y = low) ∧ (y < high ∨ closed ∧ y = high)

theorem Within.le {closed : Prop} {low high y : ℚ} (h : Within closed low high y) :
    low ≤ y ∧ y ≤ high := by
  obtain ⟨h | ⟨-, h⟩, h' | ⟨-, h'⟩⟩ := h <;> constructor <;> linarith

theorem Within.mono {closed : Prop} {low low' high y : ℚ} (h : Within closed low high y)
    (hl : low' ≤ low) : Within closed low' high y := by
  refine ⟨?_, h.2⟩
  obtain h | ⟨hc, rfl⟩ := h.1
  · exact .inl (hl.trans_lt h)
  · exact hl.lt_or_eq.imp id fun he => ⟨hc, he.symm⟩

/-- The distance from `m` to the midpoint below it, in units of the last place.
    Below a power of two the neighbour is half as far away. -/
def gapBelow (m : ℕ) (q : ℤ) : ℚ :=
  if m = 2 ^ 52 ∧ -1074 < q then 1 / 4 else 1 / 2

/-- The rational rounds to `m · 2^q`. The midpoints do so if `m` is even. -/
def RoundsTo (m : ℕ) (q : ℤ) (v : ℚ) : Prop :=
  Within (m % 2 = 0) (m - gapBelow m q) (m + 1 / 2) (v / 2 ^ q)

theorem gapBelow_le (m : ℕ) (q : ℤ) : gapBelow m q ≤ 1 / 2 := by
  unfold gapBelow
  split <;> norm_num

theorem gapBelow_pos (m : ℕ) (q : ℤ) : 0 < gapBelow m q := by
  unfold gapBelow
  split <;> norm_num

/-! ## Powers with an integer exponent -/

theorem zpow_eq_div {b : ℕ} (hb : 0 < b) (k : ℤ) :
    (b : ℚ) ^ k = (b ^ k.toNat : ℕ) / (b ^ (-k).toNat : ℕ) := by
  have hb : (b : ℚ) ≠ 0 := by exact_mod_cast hb.ne'
  rw [Nat.cast_pow, Nat.cast_pow, ← zpow_natCast, ← zpow_natCast, ← zpow_sub₀ hb]
  congr 1
  omega

theorem two_zpow_pos (k : ℤ) : (0 : ℚ) < 2 ^ k := zpow_pos (by norm_num) k

/-- The quotient scaled by a power of two. -/
theorem scaled_quotient (num den : ℕ) (q : ℤ) :
    ((num * 2 ^ (-q).toNat : ℕ) : ℚ) / (den * 2 ^ q.toNat : ℕ) = (num / den : ℚ) / 2 ^ q := by
  have h := zpow_eq_div (b := 2) (by norm_num) q
  rw [Nat.cast_ofNat] at h
  rw [h, Nat.cast_mul, Nat.cast_mul]
  have h1 : ((2 ^ q.toNat : ℕ) : ℚ) ≠ 0 := by positivity
  have h2 : ((2 ^ (-q).toNat : ℕ) : ℚ) ≠ 0 := by positivity
  field_simp

theorem scaled_lt_iff (a : ℕ) (i : ℤ) (b : ℕ) (j : ℤ) :
    a * 10 ^ i.toNat * 2 ^ (-j).toNat < b * 2 ^ j.toNat * 10 ^ (-i).toNat ↔
      (a : ℚ) * 10 ^ i < b * 2 ^ j := by
  have h10 := zpow_eq_div (b := 10) (by norm_num) i
  have h2 := zpow_eq_div (b := 2) (by norm_num) j
  rw [Nat.cast_ofNat] at h10 h2
  rw [h10, h2, ← mul_div_assoc, ← mul_div_assoc, div_lt_div_iff₀ (by positivity) (by positivity)]
  exact_mod_cast Iff.rfl

theorem scaled_eq_iff (a : ℕ) (i : ℤ) (b : ℕ) (j : ℤ) :
    a * 10 ^ i.toNat * 2 ^ (-j).toNat = b * 2 ^ j.toNat * 10 ^ (-i).toNat ↔
      (a : ℚ) * 10 ^ i = b * 2 ^ j := by
  have h10 := zpow_eq_div (b := 10) (by norm_num) i
  have h2 := zpow_eq_div (b := 2) (by norm_num) j
  rw [Nat.cast_ofNat] at h10 h2
  rw [h10, h2, ← mul_div_assoc, ← mul_div_assoc, div_eq_div_iff (by positivity) (by positivity)]
  exact_mod_cast Iff.rfl

/-! ## The decimal that is written -/

/-- The value of a decimal. -/
def Decimal.value (d : Decimal) : ℚ :=
  d.digits * 10 ^ d.scale

theorem compareDecimal_eq_lt {d : Decimal} {b : ℕ} {j : ℤ} :
    compareDecimal d.digits d.scale b j = .lt ↔ d.value < b * 2 ^ j :=
  Nat.compare_eq_lt.trans (scaled_lt_iff ..)

theorem compareDecimal_eq_eq {d : Decimal} {b : ℕ} {j : ℤ} :
    compareDecimal d.digits d.scale b j = .eq ↔ d.value = b * 2 ^ j :=
  Nat.compare_eq_eq.trans (scaled_eq_iff ..)

theorem compareDecimal_eq_gt {d : Decimal} {b : ℕ} {j : ℤ} :
    compareDecimal d.digits d.scale b j = .gt ↔ b * 2 ^ j < d.value := by
  have hlt := @compareDecimal_eq_lt d b j
  have heq := @compareDecimal_eq_eq d b j
  rcases lt_trichotomy d.value (b * 2 ^ j) with h | h | h
  · rw [hlt.mpr h]
    exact ⟨nofun, fun hc => absurd hc h.not_gt⟩
  · rw [heq.mpr h]
    exact ⟨nofun, fun hc => absurd h hc.ne'⟩
  · refine ⟨fun _ => h, fun _ => ?_⟩
    cases hc : compareDecimal d.digits d.scale b j with
    | lt => exact absurd (hlt.mp hc) h.not_gt
    | eq => exact absurd (heq.mp hc) h.ne'
    | gt => rfl

/-- A bound in quarters of the last place. -/
theorem quarters_mul {b : ℕ} {y : ℚ} (q : ℤ) (hb : (b : ℚ) = 4 * y) :
    (b : ℚ) * 2 ^ (q - 2) = y * 2 ^ q := by
  rw [hb, zpow_sub₀ (by norm_num)]
  ring

theorem roundsTo_of_readsBack {m : ℕ} {q : ℤ} {d : Decimal} (hm : m ≠ 0)
    (h : readsBack m q d = true) : RoundsTo m q d.value := by
  have hp := two_zpow_pos q
  have hlow : (((if (m == 2 ^ 52 && q > -1074) = true then 4 * m - 1 else 4 * m - 2 : ℕ) : ℚ)) =
      4 * (m - gapBelow m q) := by
    have hm1 : 1 ≤ m := Nat.one_le_iff_ne_zero.mpr hm
    by_cases hc : m = 2 ^ 52 ∧ -1074 < q
    · rw [gapBelow, if_pos hc, if_pos (by simpa using hc), Nat.cast_sub (by omega)]
      push_cast
      ring
    · rw [gapBelow, if_neg hc, if_neg (by simpa using hc), Nat.cast_sub (by omega)]
      push_cast
      ring
  have hhigh : ((4 * m + 2 : ℕ) : ℚ) = 4 * (m + 1 / 2) := by
    push_cast
    ring
  unfold readsBack at h
  simp only [Bool.and_eq_true (_ || _), Bool.or_eq_true, Bool.and_eq_true (_ % _ == 0),
    beq_iff_eq, compareDecimal_eq_lt, compareDecimal_eq_eq, compareDecimal_eq_gt] at h
  rw [quarters_mul q hlow, quarters_mul q hhigh] at h
  unfold RoundsTo Within
  rw [lt_div_iff₀ hp, div_lt_iff₀ hp, div_eq_iff hp.ne', div_eq_iff hp.ne']
  exact h

/-- What is at most a quarter of the last place away rounds to the double. -/
theorem roundsTo_of_close {m : ℕ} {q : ℤ} {v : ℚ} (h : |v / 2 ^ q - m| ≤ 1 / 4) :
    RoundsTo m q v := by
  obtain ⟨hlow, hhigh⟩ := abs_le.mp h
  refine ⟨?_, .inl (by linarith)⟩
  unfold gapBelow
  split
  · rename_i hm
    obtain hlt | heq := (show (m - 1 / 4 : ℚ) ≤ v / 2 ^ q by linarith).lt_or_eq
    · exact .inl hlt
    · exact .inr ⟨by omega, heq.symm⟩
  · exact .inl (by linarith)

/-- The exact value rounds to itself. -/
theorem roundsTo_self (m : ℕ) (q : ℤ) : RoundsTo m q (m * 2 ^ q) := by
  refine roundsTo_of_close ?_
  rw [mul_div_cancel_right₀ _ (two_zpow_pos q).ne', sub_self, abs_zero]
  norm_num

theorem value_exact (m : ℕ) (q : ℤ) :
    Decimal.value ⟨m * 2 ^ q.toNat * 5 ^ (-q).toNat, min q 0⟩ = m * 2 ^ q := by
  unfold Decimal.value
  dsimp only
  push_cast
  rcases le_total q 0 with hq | hq
  · obtain ⟨k, rfl⟩ : ∃ k : ℕ, q = -k := ⟨q.natAbs, by omega⟩
    rw [min_eq_left hq, neg_neg, Int.toNat_natCast, Int.toNat_of_nonpos hq, pow_zero, zpow_neg,
      zpow_neg, zpow_natCast, zpow_natCast, show (10 : ℚ) = 2 * 5 by norm_num, mul_pow]
    field_simp
  · obtain ⟨k, rfl⟩ := Int.eq_ofNat_of_zero_le hq
    rw [min_eq_right hq, Int.toNat_natCast, Int.toNat_of_nonpos (Int.neg_nonpos_of_nonneg hq),
      pow_zero, zpow_zero, zpow_natCast]
    ring

/-- Of two candidates the first is taken that reads back. -/
theorem readsBack_of_candidates {m : ℕ} {q : ℤ} {pair : Decimal × Decimal} {d : Decimal}
    (h : (if readsBack m q pair.1 then some pair.1
      else if readsBack m q pair.2 then some pair.2 else none) = some d) :
    readsBack m q d = true := by
  split at h
  · rename_i hd
    rw [← Option.some.inj h]
    exact hd
  · split at h
    · rename_i hd
      rw [← Option.some.inj h]
      exact hd
    · cases h

theorem readsBack_of_onGrid? {m : ℕ} {q scale : ℤ} {d : Decimal}
    (h : onGrid? m q scale = some d) : readsBack m q d = true :=
  readsBack_of_candidates h

theorem readsBack_of_shortestFrom {m : ℕ} {q magnitude : ℤ} {d : Decimal} (fuel : ℕ) :
    ∀ digits, shortestFrom m q magnitude fuel digits = some d → readsBack m q d = true := by
  induction fuel with
  | zero => exact fun _ h => by cases h
  | succ fuel ih =>
    intro digits h
    unfold shortestFrom at h
    split at h
    · rename_i hd
      exact readsBack_of_onGrid? (hd.trans h)
    · exact ih _ h

/-- The decimal that is written for a double rounds to it. -/
theorem roundsTo_shortest {m : ℕ} (hm : m ≠ 0) (q : ℤ) : RoundsTo m q (shortest m q).value := by
  unfold shortest
  cases h : shortestFrom m q (decimalMagnitude m q) 17 1 with
  | some d => exact roundsTo_of_readsBack hm (readsBack_of_shortestFrom 17 1 h)
  | none =>
    rw [Option.getD_none, value_exact]
    exact roundsTo_self m q

/-! ## Rounding a quotient -/

/-- A quotient is rounded to the nearest natural, a half to the even one. -/
theorem roundQuotient_eq {num den n : ℕ} (hd : 0 < den)
    (h : Within (n % 2 = 0) (n - 1 / 2) (n + 1 / 2) (num / den)) :
    roundQuotient num den = n := by
  have hdq : (0 : ℚ) < den := by exact_mod_cast hd
  have hcast {a b : ℕ} : (a : ℚ) < b ↔ a < b := Nat.cast_lt
  have heq {a b : ℕ} : (a : ℚ) = b ↔ a = b := Nat.cast_inj
  have hlow : 2 * (den * n) < 2 * num + den ∨ n % 2 = 0 ∧ 2 * num + den = 2 * (den * n) := by
    refine h.1.imp (fun h => ?_) fun h => ⟨h.1, ?_⟩
    · rw [lt_div_iff₀ hdq] at h
      rw [← hcast]
      push_cast
      linarith
    · rw [div_eq_iff hdq.ne'] at h
      rw [← heq]
      push_cast
      linarith [h.2]
  have hhigh : 2 * num < 2 * (den * n) + den ∨ n % 2 = 0 ∧ 2 * num = 2 * (den * n) + den := by
    refine h.2.imp (fun h => ?_) fun h => ⟨h.1, ?_⟩
    · rw [div_lt_iff₀ hdq] at h
      rw [← hcast]
      push_cast
      linarith
    · rw [div_eq_iff hdq.ne'] at h
      rw [← heq]
      push_cast
      linarith [h.2]
  have hnum := Nat.div_add_mod num den
  have hr := Nat.mod_lt num hd
  unfold roundQuotient
  dsimp only
  generalize num % den = r at *
  generalize num / den = k at *
  obtain hk | rfl | rfl | hk : n + 1 ≤ k ∨ k = n ∨ n = k + 1 ∨ k + 2 ≤ n := by omega
  · have := Nat.mul_le_mul_left den hk
    rw [Nat.mul_succ] at this
    omega
  · split
    · rfl
    · split <;> omega
  · rw [Nat.mul_succ] at hlow hhigh
    split
    · omega
    · split <;> omega
  · have := Nat.mul_le_mul_left den hk
    rw [show k + 2 = k + 1 + 1 from rfl, Nat.mul_succ, Nat.mul_succ] at this
    omega

/-- The binade of a quotient gives the exponent. -/
theorem exists_quotientExponent {num den : ℕ} (hn : 0 < num) (hd : 0 < den) :
    ∃ e : ℤ, 2 ^ (e + 52) ≤ (num / den : ℚ) ∧ (num / den : ℚ) < 2 ^ (e + 53) ∧
      quotientExponent num den = max e (-1074) := by
  have hlog {k : ℕ} (hk : 0 < k) :
      (2 : ℚ) ^ (k.log2 : ℤ) ≤ k ∧ (k : ℚ) < 2 ^ ((k.log2 : ℤ) + 1) := by
    have h1 := Nat.log2_self_le hk.ne'
    have h2 := @Nat.lt_log2_self k
    rw [← Nat.cast_succ, zpow_natCast, zpow_natCast]
    exact ⟨by exact_mod_cast h1, by exact_mod_cast h2⟩
  obtain ⟨hn1, hn2⟩ := hlog hn
  obtain ⟨hd1, hd2⟩ := hlog hd
  have hdq : (0 : ℚ) < den := by exact_mod_cast hd
  obtain ⟨t, ht⟩ : ∃ t : ℤ, t = (num.log2 : ℤ) - den.log2 - 53 := ⟨_, rfl⟩
  have hlow : (2 : ℚ) ^ (t + 52) ≤ num / den := by
    rw [le_div_iff₀ hdq]
    calc (2 : ℚ) ^ (t + 52) * den ≤ 2 ^ (t + 52) * 2 ^ ((den.log2 : ℤ) + 1) :=
          mul_le_mul_of_nonneg_left hd2.le (two_zpow_pos _).le
      _ = 2 ^ (num.log2 : ℤ) := by
          rw [← zpow_add₀ (by norm_num)]
          congr 1
          omega
      _ ≤ num := hn1
  have hhigh : (num / den : ℚ) < 2 ^ (t + 54) := by
    rw [div_lt_iff₀ hdq]
    calc (num : ℚ) < 2 ^ ((num.log2 : ℤ) + 1) := hn2
      _ = 2 ^ (t + 54) * 2 ^ (den.log2 : ℤ) := by
          rw [← zpow_add₀ (by norm_num)]
          congr 1
          omega
      _ ≤ 2 ^ (t + 54) * den := mul_le_mul_of_nonneg_left hd1 (two_zpow_pos _).le
  have hfits : num * 2 ^ (-(t + 53)).toNat < den * 2 ^ (t + 53).toNat ↔
      (num / den : ℚ) < 2 ^ (t + 53) := by
    rw [← div_lt_one (two_zpow_pos (t + 53)), ← scaled_quotient, div_lt_one (by positivity),
      Nat.cast_lt]
  unfold quotientExponent
  dsimp only
  rw [← ht]
  by_cases hf : num * 2 ^ (-(t + 53)).toNat < den * 2 ^ (t + 53).toNat
  · exact ⟨t, hlow, hfits.mp hf, by rw [if_pos hf]⟩
  · refine ⟨t + 1, ?_, ?_, by rw [if_neg hf]⟩
    · rw [show t + 1 + 52 = t + 53 by omega]
      exact not_lt.mp (mt hfits.mpr hf)
    · rw [show t + 1 + 53 = t + 54 by omega]
      exact hhigh

theorem two_zpow_lt_iff {k l : ℤ} : (2 : ℚ) ^ k < 2 ^ l ↔ k < l :=
  zpow_lt_zpow_iff_right₀ (by norm_num)

theorem RoundsTo.pos {m : ℕ} {q : ℤ} {v : ℚ} (hm : m ≠ 0) (h : RoundsTo m q v) : 0 < v := by
  have hg := gapBelow_le m q
  have hm1 : (1 : ℚ) ≤ m := by exact_mod_cast Nat.one_le_iff_ne_zero.mpr hm
  have hy : 0 < v / 2 ^ q := by linarith [h.le.1]
  exact (div_pos_iff_of_pos_right (two_zpow_pos q)).mp hy

/-- What rounds to a double is neither very small nor very great. -/
theorem RoundsTo.bounds {s : Bool} {m : ℕ} {q : ℤ} {v : ℚ}
    (hc : (Exact.finite s m q).Canonical) (hm : m ≠ 0) (h : RoundsTo m q v) :
    10 ^ (-400 : ℤ) < v ∧ v < 10 ^ (400 : ℤ) := by
  have hp := two_zpow_pos q
  have hten : (2 : ℚ) ^ (1200 : ℤ) ≤ 10 ^ (400 : ℤ) := by
    rw [show (1200 : ℤ) = 3 * 400 by norm_num, zpow_mul]
    exact zpow_le_zpow_left₀ (by norm_num) (by norm_num) (by norm_num)
  have hm1 : (1 : ℚ) ≤ m := by exact_mod_cast Nat.one_le_iff_ne_zero.mpr hm
  obtain ⟨hyl, hyh⟩ := h.le
  rw [le_div_iff₀ hp] at hyl
  rw [div_le_iff₀ hp] at hyh
  have hq : -1074 ≤ q ∧ q ≤ 971 ∧ m + 1 ≤ 2 ^ 53 := by
    obtain ⟨hm, rfl⟩ | ⟨-, hm, hq, hq'⟩ := hc <;> omega
  constructor
  · calc (10 : ℚ) ^ (-400 : ℤ) = (10 ^ (400 : ℤ))⁻¹ := zpow_neg 10 400
      _ ≤ (2 ^ (1200 : ℤ))⁻¹ := inv_anti₀ (two_zpow_pos _) hten
      _ = 2 ^ (-1200 : ℤ) := (zpow_neg 2 1200).symm
      _ < 2 ^ (q - 1) := two_zpow_lt_iff.mpr (by omega)
      _ = 1 / 2 * 2 ^ q := by rw [zpow_sub_one₀ (by norm_num)]; ring
      _ ≤ (m - gapBelow m q) * 2 ^ q :=
          mul_le_mul_of_nonneg_right (by linarith [gapBelow_le m q]) hp.le
      _ ≤ v := hyl
  · have hm53 : (m : ℚ) + 1 ≤ 2 ^ 53 := by exact_mod_cast hq.2.2
    calc v ≤ (m + 1 / 2) * 2 ^ q := hyh
      _ ≤ 2 ^ 53 * 2 ^ q := mul_le_mul_of_nonneg_right (by linarith) hp.le
      _ = 2 ^ (53 + q) := by rw [zpow_add₀ (by norm_num)]; norm_num
      _ < 2 ^ (1200 : ℤ) := two_zpow_lt_iff.mpr (by omega)
      _ ≤ 10 ^ (400 : ℤ) := hten

/-- A quotient that rounds to a double has its exponent and mantissa. Just below a
    power of two it has the exponent below, and its mantissa is rounded up to the
    power. -/
theorem RoundsTo.exists_mantissa {s : Bool} {m num den : ℕ} {q : ℤ}
    (hc : (Exact.finite s m q).Canonical) (hm : m ≠ 0) (hd : 0 < den)
    (h : RoundsTo m q (num / den)) :
    ∃ n : ℕ, Within (n % 2 = 0) (n - 1 / 2) (n + 1 / 2)
        ((num / den : ℚ) / 2 ^ quotientExponent num den) ∧
      (quotientExponent num den + 1074).toNat * 2 ^ 52 + n = (q + 1074).toNat * 2 ^ 52 + m := by
  have hn : 0 < num := by
    have := h.pos hm
    rw [div_pos_iff_of_pos_right (by exact_mod_cast hd)] at this
    exact_mod_cast this
  obtain ⟨t, hlow, hhigh, he⟩ := exists_quotientExponent hn hd
  rw [he]
  have hp := two_zpow_pos q
  have hpow (k : ℕ) : (2 : ℚ) ^ (q + k) = 2 ^ k * 2 ^ q := by
    rw [zpow_add₀ (by norm_num), zpow_natCast, mul_comm]
  have hm53 : m + 1 ≤ 2 ^ 53 := by
    obtain ⟨hm, -⟩ | ⟨-, hm, -⟩ := hc <;> omega
  have hm53 : (m : ℚ) + 1 ≤ 2 ^ 53 := by exact_mod_cast hm53
  obtain ⟨hyl, hyh⟩ := h.le
  have hqt : t ≤ q := by
    have hv : (num / den : ℚ) < 2 ^ (q + (53 : ℕ)) := by
      rw [hpow, ← div_lt_iff₀ hp]
      linarith
    have := two_zpow_lt_iff.mp (hlow.trans_lt hv)
    omega
  by_cases hq : max t (-1074) = q
  · rw [hq]
    exact ⟨m, h.mono (by linarith [gapBelow_le m q]), rfl⟩
  · obtain ⟨-, rfl⟩ | ⟨hm52, -, hq1, -⟩ := hc
    · omega
    have hy52 : (num / den : ℚ) / 2 ^ q < 2 ^ 52 := by
      rw [div_lt_iff₀ hp, ← hpow]
      exact hhigh.trans_le (zpow_le_zpow_right₀ (by norm_num) (by omega))
    have hmeq : m = 2 ^ 52 := by
      have : (m : ℚ) < (2 ^ 52 + 1 : ℕ) := by
        push_cast
        linarith [gapBelow_le m q]
      have := Nat.cast_lt.mp this
      omega
    subst hmeq
    have hgap : gapBelow (2 ^ 52) q = 1 / 4 := if_pos ⟨rfl, by omega⟩
    rw [hgap] at hyl
    push_cast at hyl
    have ht : t = q - 1 := by
      have hv : (2 : ℚ) ^ (q + (51 : ℕ)) ≤ num / den := by
        rw [hpow, ← le_div_iff₀ hp]
        linarith
      have := two_zpow_lt_iff.mp (hv.trans_lt hhigh)
      omega
    have htwice : (num / den : ℚ) / 2 ^ (q - 1) = 2 * ((num / den) / 2 ^ q) := by
      rw [zpow_sub_one₀ (by norm_num)]
      field_simp
    refine ⟨2 ^ 53, ?_, by omega⟩
    rw [show max t (-1074) = q - 1 by omega, htwice]
    push_cast
    refine ⟨?_, .inl (by linarith)⟩
    exact hyl.lt_or_eq.imp (fun hy => by linarith) fun hy => ⟨trivial, by linarith⟩

/-- A quotient that rounds to a double has its bits. -/
theorem RoundsTo.quotientBits_eq {s : Bool} {m num den : ℕ} {q : ℤ}
    (hc : (Exact.finite s m q).Canonical) (hm : m ≠ 0) (hd : 0 < den)
    (h : RoundsTo m q (num / den)) : quotientBits num den = (q + 1074).toNat * 2 ^ 52 + m := by
  obtain ⟨n, hw, hn⟩ := h.exists_mantissa hc hm hd
  have hnum : num ≠ 0 := by
    rintro rfl
    have := h.pos hm
    simp at this
  have hround : roundQuotient (num * 2 ^ (-quotientExponent num den).toNat)
      (den * 2 ^ (quotientExponent num den).toNat) = n :=
    roundQuotient_eq (by positivity) (by rw [scaled_quotient]; exact hw)
  unfold quotientBits
  rw [if_neg hnum]
  dsimp only
  rw [hround, hn]
  obtain ⟨hm, rfl⟩ | ⟨-, hm, -, hq⟩ := hc <;> omega

/-- A quotient that rounds to a double does not overflow. -/
theorem RoundsTo.overflows_eq_false {s : Bool} {m num den : ℕ} {q : ℤ}
    (hc : (Exact.finite s m q).Canonical) (hm : m ≠ 0) (hd : 0 < den)
    (h : RoundsTo m q (num / den)) : overflows num den = false := by
  unfold overflows
  rw [h.quotientBits_eq hc hm hd, beq_eq_false_iff_ne]
  obtain ⟨hm, rfl⟩ | ⟨-, hm, -, hq⟩ := hc <;> omega

/-! ## Bits -/

theorem exact_ofBits (b : UInt64) : exact (Float.ofBits b) = .ofBits b.toNat := by
  show exact (.ofModel (Float.Model.pack
    (Float.Model.UnpackedFloat.unpack Float.Model.Format.binary64 b.toBitVec))) = _
  rw [unpack_ofBits, exact_pack (Exact.canonical_ofBits _)]
  rfl

/-- The double nearest to a quotient that rounds to `m · 2^q`. -/
theorem RoundsTo.exact_ofQuotient {s : Bool} {m num den : ℕ} {q : ℤ}
    (hc : (Exact.finite s m q).Canonical) (hm : m ≠ 0) (hd : 0 < den)
    (h : RoundsTo m q (num / den)) : exact (ofQuotient s num den) = .finite s m q := by
  have hbits : quotientBits num den + (if s then 2 ^ 63 else 0) = (Exact.finite s m q).bits := by
    rw [h.quotientBits_eq hc hm hd]
    show _ = (if s then 1 else 0) * 2 ^ 63 +
      (if m < 2 ^ 52 then m else (q + 1075).toNat * 2 ^ 52 + (m - 2 ^ 52))
    obtain ⟨hm, rfl⟩ | ⟨hm, hm', hq, hq'⟩ := hc
    · rw [if_pos hm]
      cases s <;> simp only [Bool.false_eq_true, if_true, if_false] <;> omega
    · rw [if_neg (Nat.not_lt.mpr hm)]
      cases s <;> simp only [Bool.false_eq_true, if_true, if_false] <;> omega
  have hlt : (Exact.finite s m q).bits < 2 ^ 64 := by
    rw [← hbits, h.quotientBits_eq hc hm hd]
    obtain ⟨hm, rfl⟩ | ⟨hm, hm', hq, hq'⟩ := hc <;> split <;> omega
  unfold ofQuotient
  rw [exact_ofBits, hbits, UInt64.toNat_ofNat', Nat.mod_eq_of_lt hlt, Exact.ofBits_bits hc]

end TokenFormula.Double
