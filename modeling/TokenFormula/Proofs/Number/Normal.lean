import TokenFormula.Proofs.Number.Neutral

/-!
# Numbers in normal form

Results:
* `normalize_eq_self_iff`, `isNormal_normalize`: the normal form.
* `add_zero`, `mul_one`, `two_mul`, `normalize_negate_negate`: the operations
  that give a number in normal form back.
* `eq_int_of_equal`: a number in normal form that equals a small integer is that
  integer.
-/

namespace TokenFormula.Number

/-! ## Normal form -/

theorem normalize_eq_self_iff (n : Number) : n.normalize = n ↔ n.isNormal = true := by
  cases n with
  | int n => simp [normalize, isNormal]
  | real x =>
    unfold normalize isNormal
    dsimp only
    cases hx : Double.integer? x with
    | none => simp
    | some n =>
      dsimp only
      split
      · rename_i h
        simp only [reduceCtorEq, decide_eq_true_eq, false_iff, Nat.not_le]
        exact h
      · rename_i h
        simp only [decide_eq_true_eq, true_iff]
        exact Nat.not_lt.mp h

theorem isNormal_normalize (n : Number) : n.normalize.isNormal = true := by
  cases n with
  | int n => rfl
  | real x =>
    unfold normalize
    dsimp only
    cases hx : Double.integer? x with
    | none => simp only [isNormal, hx]
    | some n =>
      dsimp only
      split
      · rfl
      · rename_i h
        simp only [isNormal, hx, decide_eq_true_eq]
        exact Nat.not_lt.mp h

/-! ## Integral doubles -/

theorem withSign_mul (s : Bool) (m k : Nat) :
    Double.withSign s m * (k : Int) = Double.withSign s (m * k) := by
  cases s
  · exact (Int.natCast_mul m k).symm
  · show -(m : Int) * k = -((m * k : Nat) : Int)
    rw [Int.natCast_mul, Int.neg_mul]

/-- The integer that an integral double equals. -/
theorem integer?_eq_some {x : Float} {s : Bool} {m c : Nat} {q : Int}
    (hx : Double.exact x = .finite s m q) (h : m * 2 ^ q.toNat = c * 2 ^ (-q).toNat) :
    Double.integer? x = some (Double.withSign s c) := by
  have hp : 0 < 2 ^ (-q).toNat := Nat.two_pow_pos _
  have hpow (k : Nat) : ((2 : Int) ^ k) = ((2 ^ k : Nat) : Int) := (Int.natCast_pow 2 k).symm
  unfold Double.integer?
  rw [hx]
  dsimp only
  rw [h, Nat.mul_mod_left, if_pos rfl]
  unfold Double.floorScaled
  rw [hpow, hpow, withSign_mul, h, ← withSign_mul, Int.mul_ediv_cancel]
  omega

theorem exists_of_integer? {x : Float} {n : Int} (h : Double.integer? x = some n) :
    ∃ s m q c, Double.exact x = .finite s m q ∧ m * 2 ^ q.toNat = c * 2 ^ (-q).toNat ∧
      n = Double.withSign s c := by
  cases hx : Double.exact x with
  | nan | infinite =>
    unfold Double.integer? at h
    rw [hx] at h
    cases h
  | finite s m q =>
    have hd : m * 2 ^ q.toNat % 2 ^ (-q).toNat = 0 := by
      unfold Double.integer? at h
      rw [hx] at h
      dsimp only at h
      split at h
      · assumption
      · cases h
    have hc : m * 2 ^ q.toNat = m * 2 ^ q.toNat / 2 ^ (-q).toNat * 2 ^ (-q).toNat :=
      (Nat.div_mul_cancel (Nat.dvd_of_mod_eq_zero hd)).symm
    refine ⟨s, m, q, _, rfl, hc, ?_⟩
    rw [integer?_eq_some hx hc] at h
    exact (Option.some.inj h).symm

/-! ## Neutral operands -/

theorem exact_ne_negative_zero {x : Float} (h : (real x).isNormal = true) :
    Double.exact x ≠ .finite true 0 (-1074) := by
  intro hx
  have hi := integer?_eq_some (c := 0) hx (by rw [Nat.zero_mul, Nat.zero_mul])
  have hn : (real x).isNormal = decide (safeLimit.natAbs ≤ (Double.withSign true 0).natAbs) := by
    simp only [isNormal, hi]
  rw [hn] at h
  exact absurd h (by decide)

theorem add_zero {n : Number} (h : n.isNormal = true) : n.add (int 0) = .ok n := by
  cases n with
  | int n => exact congrArg (fun k => Except.ok (int k)) (Int.add_zero n)
  | real x =>
    exact congrArg (fun y => Except.ok (real y)) (Double.add_zero (exact_ne_negative_zero h))

theorem zero_add {n : Number} (h : n.isNormal = true) : (int 0).add n = .ok n := by
  cases n with
  | int n => exact congrArg (fun k => Except.ok (int k)) (Int.zero_add n)
  | real x =>
    exact congrArg (fun y => Except.ok (real y)) (Double.zero_add (exact_ne_negative_zero h))

theorem mul_one (n : Number) : n.mul (int 1) = .ok n := by
  cases n with
  | int n => exact congrArg (fun k => Except.ok (int k)) (Int.mul_one n)
  | real x => exact congrArg (fun y => Except.ok (real y)) (Double.mul_one x)

theorem one_mul (n : Number) : (int 1).mul n = .ok n := by
  cases n with
  | int n => exact congrArg (fun k => Except.ok (int k)) (Int.one_mul n)
  | real x => exact congrArg (fun y => Except.ok (real y)) (Double.one_mul x)

/-- Doubling is adding a number to itself. -/
theorem two_mul (n : Number) : (int 2).mul n = n.add n := by
  cases n with
  | int n => exact congrArg (fun k => Except.ok (int k)) (Int.two_mul n)
  | real x => exact congrArg (fun y => Except.ok (real y)) (Double.two_mul x)

/-! ## Signs -/

theorem withSign_not (s : Bool) (c : Nat) : Double.withSign (!s) c = -Double.withSign s c := by
  cases s
  · rfl
  · exact (Int.neg_neg _).symm

theorem integer?_negate_of_some {x : Float} {n : Int} (h : Double.integer? x = some n) :
    Double.integer? (Double.negate x) = some (-n) := by
  obtain ⟨s, m, q, c, hx, hc, rfl⟩ := exists_of_integer? h
  have hn : Double.exact (Double.negate x) = .finite (!s) m q := by
    rw [Double.exact_negate, hx]
    rfl
  rw [integer?_eq_some hn hc, withSign_not]

theorem integer?_negate (x : Float) :
    Double.integer? (Double.negate x) = (Double.integer? x).map fun n => -n := by
  cases hx : Double.integer? x with
  | some n => exact integer?_negate_of_some hx
  | none =>
    cases hn : Double.integer? (Double.negate x) with
    | none => rfl
    | some n =>
      have := integer?_negate_of_some hn
      rw [Double.negate_negate, hx] at this
      cases this

theorem negate_negate (n : Number) : n.negate.negate = n := by
  cases n with
  | int n => exact congrArg int (Int.neg_neg n)
  | real x => exact congrArg real (Double.negate_negate x)

theorem isNormal_negate (n : Number) : n.negate.isNormal = n.isNormal := by
  cases n with
  | int n => rfl
  | real x =>
    unfold negate isNormal
    dsimp only
    rw [integer?_negate]
    cases Double.integer? x with
    | none => rfl
    | some n => simp only [Option.map_some, Int.natAbs_neg]

/-- Turning the sign twice gives a number in normal form back. -/
theorem normalize_negate_negate {n : Number} (h : n.isNormal = true) :
    n.negate.normalize.negate.normalize = n := by
  rw [(normalize_eq_self_iff _).mpr ((isNormal_negate n).trans h), negate_negate,
    (normalize_eq_self_iff n).mpr h]

/-! ## Small integers -/

theorem natAbs_withSign (s : Bool) (c : Nat) : (Double.withSign s c).natAbs = c := by
  cases s
  · exact Int.natAbs_natCast c
  · exact (Int.natAbs_neg _).trans (Int.natAbs_natCast c)

theorem withSign_natAbs (k : Int) : Double.withSign (k < 0) k.natAbs = k := by
  unfold Double.withSign
  split
  · rename_i h
    have := of_decide_eq_true h
    omega
  · rename_i h
    have : ¬k < 0 := fun hk => h (decide_eq_true hk)
    omega

/-- What equals an integer exactly, scaled to natural exponents. -/
theorem compareScaled_eq {s : Bool} {m : Nat} {q k : Int}
    (h : Double.compareScaled s m q (k < 0) k.natAbs 0 = .eq) :
    Double.withSign s m * 2 ^ q.toNat = k * 2 ^ (-q).toNat := by
  unfold Double.compareScaled at h
  rw [withSign_natAbs] at h
  have h := Std.LawfulEqOrd.eq_of_compare h
  by_cases hq : q ≤ 0
  · rw [Int.min_eq_left hq] at h
    rw [Int.toNat_of_nonpos hq]
    simpa using h
  · have hq' : -q ≤ 0 := by omega
    rw [Int.min_eq_right (by omega)] at h
    rw [Int.toNat_of_nonpos hq']
    simpa using h

/-- A number in normal form that equals a small integer is that integer. -/
theorem eq_int_of_equal {n : Number} {k : Int} (h : n.isNormal = true)
    (hk : k.natAbs < safeLimit.natAbs) (he : n.equal (int k) = true) : n = int k := by
  have he : n.exact.compare? (.ofInt k) = some .eq := beq_iff_eq.mp he
  cases n with
  | int n =>
    have hc := compareScaled_eq (Option.some.inj he)
    rw [withSign_natAbs] at hc
    simpa using hc
  | real x =>
    change (Double.exact x).compare? (.ofInt k) = some .eq at he
    cases hx : Double.exact x with
    | nan =>
      rw [hx] at he
      cases he
    | infinite s =>
      rw [hx] at he
      cases s <;> cases he
    | finite s m q =>
      rw [hx] at he
      have hc := compareScaled_eq (Option.some.inj he)
      have hm : m * 2 ^ q.toNat = k.natAbs * 2 ^ (-q).toNat := by
        have := congrArg Int.natAbs hc
        rw [Int.natAbs_mul, Int.natAbs_mul, Int.natAbs_pow, Int.natAbs_pow, natAbs_withSign] at this
        exact this
      have hi := integer?_eq_some hx hm
      simp only [isNormal, hi, natAbs_withSign, decide_eq_true_eq] at h
      omega

end TokenFormula.Number
