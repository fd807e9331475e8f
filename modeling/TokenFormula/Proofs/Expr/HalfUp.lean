import TokenFormula.Proofs.Number.HalfUp
import TokenFormula.Proofs.Expr.Fold

/-!
# Rounding halves up in formulas

A call of `Math.round` gives the same integer evaluated and folded. For all numbers but
those that are rounded one too high it is the floor of the exact sum with one half, at
most one half away, and an integer is rounded to itself; for those it is one more.

Results:
* `evaluate_call_path`, `foldCall_path`: calls of the functions of the table.
* `round_halfUp`: rounding of numbers, evaluated and folded.
* `not_round_halfUp`: two numbers that are rounded one too high.
-/

namespace TokenFormula.Expr

open Outcome

/-! ## Calls of the functions of the table -/

/-- A call of a function of the table gives its result in normal form. -/
theorem evaluate_call_path {f : Builtin} (hf : f ≠ .isArray) {s s' : Scope}
    (hs : s.get? "Math" = some (.dict mathTable)) {args : List Expr} {vs : List Value} {v : Value}
    (hargs : evaluateArguments args s = (.ok vs, s')) (hv : f.apply vs = .ok v)
    (note : Option Note) :
    (call (.text f.path) args note).evaluate s = (.ok v.normalize, s') := by
  rw [evaluate_call, calleeName_path, andThen_ok, target_path hs hf, andThen_ok, hargs, andThen_ok,
    callValue, hv]

/-- A call of a foldable function with numbers is folded to its result, if that is a finite
    number. -/
theorem foldCall_path {f : Builtin} {a : Expr} {rest : List Expr} {ns : List Number} {n : Number}
    (hf : (mathMember? f.path).bind foldable? = some f) (hargs : numbers? (a :: rest) = some ns)
    (hv : f.apply (ns.map .num) = .ok (.num n)) (hfinite : (Value.num n).isFinite = .ok true)
    (note : Option Note) :
    foldCall (.text f.path) (a :: rest) note = .ok (number n.normalize) := by
  unfold foldCall foldedTo
  simp only [hf, hargs, hv, hfinite, ok_bind]
  rfl

/-! ## Rounding -/

open Double (RoundsPast)

/-- Rounding a finite double or an integer below `2^53` gives an integer, evaluated and
    folded. It is the floor of the exact sum with one half unless the number is rounded past,
    and so is at most one half away and keeps integers; else it is one more. -/
theorem round_halfUp {a : Number} {v : ℚ} (ha : a.HasValue v)
    (hint : ∀ k, a = .int k → k.natAbs < 2 ^ 53) :
    ∃ n : ℤ, roundHalfUp (.num a) = .ok (.int n) ∧
      (∀ e note s s', s.get? "Math" = some (.dict mathTable) → e.evaluate s = (.ok (.num a), s') →
        (call (.text "Math.round") [e] note).evaluate s = (.ok (.int n), s')) ∧
      (∀ note note', (call (.text "Math.round") [literal (some (.num a)) false note]
        note').foldConstants = .ok (number (.int n))) ∧
      (n = ⌊v + 1 / 2⌋ ↔ ¬RoundsPast v) ∧ (|n - v| ≤ 1 / 2 ↔ ¬RoundsPast v) ∧
      (∀ k : ℤ, v = k → (n = k ↔ ¬RoundsPast v)) ∧ (RoundsPast v → n = ⌊v + 1 / 2⌋ + 1) := by
  obtain ⟨n, hround, ⟨y, hy, hfinite⟩, hn⟩ := ha.round_spec hint
  have hvalue : roundHalfUp (.num a) = .ok (.int n) := by
    show (do return Value.int (← a.round) : Except Fault Value) = _
    rw [hround]
    rfl
  have hresult : (Value.num (.int n)).isFinite = .ok true := by
    show (do return Double.isFinite (← (Number.int n).toReal)) = _
    rw [hy, ok_bind, hfinite]
    rfl
  refine ⟨n, hvalue, ?_, ?_, ?_⟩
  · intro e note s s' hs he
    have hargs : evaluateArguments [e] s = (.ok [.num a], s') := by
      rw [evaluateArguments_cons, he, andThen_ok, evaluateArguments_nil]
      rfl
    exact evaluate_call_path (f := .round) (by decide) hs hargs hvalue note
  · intro note note'
    simp only [foldConstants, foldArguments, ok_bind, pure_eq_ok]
    have hcall : Builtin.round.apply ([a].map .num) = .ok (.num (.int n)) := hvalue
    exact foldCall_path rfl rfl hcall hresult note'
  · have hfloor := Int.floor_le (v + 1 / 2)
    have hfloor' := Int.lt_floor_add_one (v + 1 / 2)
    have hint (k : ℤ) (hk : v = k) : ⌊v + 1 / 2⌋ = k := by
      rw [hk, Double.floor_int_add_half]
    obtain ⟨rfl, hpast⟩ | ⟨rfl, hpast⟩ := hn
    · refine ⟨iff_of_true rfl hpast, iff_of_true (abs_le.mpr ⟨by linarith, by linarith⟩) hpast,
        fun k hk => iff_of_true (hint k hk) hpast, fun h => absurd h hpast⟩
    · refine ⟨iff_of_false (by omega) (not_not.mpr hpast), iff_of_false (fun h => ?_)
        (not_not.mpr hpast), fun k hk => iff_of_false (fun h => ?_) (not_not.mpr hpast),
        fun _ => rfl⟩
      · have := (abs_le.mp h).2
        push_cast at this
        linarith
      · rw [hint k hk] at h
        omega

/-- Five halves are rounded to three, evaluated and folded. -/
theorem round_halfUp_five_halves :
    (Number.real (Double.ofQuotient false 5 2)).HasValue (5 / 2) ∧
    (∀ k, Number.real (Double.ofQuotient false 5 2) = .int k → k.natAbs < 2 ^ 53) ∧
    ¬RoundsPast (5 / 2) ∧ ⌊(5 / 2 + 1 / 2 : ℚ)⌋ = 3 ∧
    roundHalfUp (.num (.real (Double.ofQuotient false 5 2))) = .ok (.int 3) ∧
    ((call (.text "Math.round") [literal (some (.num (.real (Double.ofQuotient false 5 2)))) false
      none] none).evaluate Scope.empty.withTables).1 = .ok (.int 3) ∧
    (call (.text "Math.round") [literal (some (.num (.real (Double.ofQuotient false 5 2)))) false
      none] none).foldConstants = .ok (number (.int 3)) := by
  have hvalue : (Number.real (Double.ofQuotient false 5 2)).HasValue (5 / 2) :=
    ⟨false, 5 * 2 ^ 50, -51, by decide, by norm_num [Double.withSign]⟩
  have hint : ∀ k, Number.real (Double.ofQuotient false 5 2) = .int k → k.natAbs < 2 ^ 53 := by
    intro k hk
    cases hk
  have hpast : ¬RoundsPast (5 / 2) :=
    Double.not_roundsPast_of_lt (by norm_num [abs_of_pos]) (by norm_num)
  have hthree : ⌊(5 / 2 + 1 / 2 : ℚ)⌋ = 3 := by norm_num
  obtain ⟨n, hround, heval, hfold, hfloor, -⟩ := round_halfUp hvalue hint
  obtain rfl : n = 3 := (hfloor.mpr hpast).trans hthree
  have hliteral := evaluate_literal (some (.num (.real (Double.ofQuotient false 5 2)))) false none
    Scope.empty.withTables
  exact ⟨hvalue, hint, hpast, hthree, hround, congrArg Prod.fst (heval _ none _ _ rfl hliteral),
    hfold none none⟩

/-- The double just below one half is rounded to one, and `2^52 + 1` is not kept. -/
theorem not_round_halfUp :
    (Number.real (Double.ofQuotient false (2 ^ 53 - 1) (2 ^ 54))).HasValue (1 / 2 - 1 / 2 ^ 54) ∧
    ⌊(1 / 2 - 1 / 2 ^ 54 + 1 / 2 : ℚ)⌋ = 0 ∧
    roundHalfUp (.num (.real (Double.ofQuotient false (2 ^ 53 - 1) (2 ^ 54)))) = .ok (.int 1) ∧
    roundHalfUp (.num (.int (2 ^ 52 + 1))) = .ok (.int (2 ^ 52 + 2)) := by
  refine ⟨⟨false, 2 ^ 53 - 1, -54, by decide, by norm_num [Double.withSign]⟩, ?_, ?_, ?_⟩
  · rw [Int.floor_eq_zero_iff]
    norm_num
  · rfl
  · rfl

end TokenFormula.Expr
