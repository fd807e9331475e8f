import TokenFormula.Proofs.Expr.Outcome
import TokenFormula.Proofs.Scope

/-!
# Where results come from

An operator or a built-in function makes a number, a text or a truth value, or it
passes on one of its operands or arguments. A call passes on what its name leads to,
a part of a bound value. So an invariant of values holds for all results once it
holds for those that are made.

Results:
* `Value.IsScalar`: values without parts that are no functions.
* `combine_result`, `unaryValue_result`: results of operators.
* `apply_result`, `callValue_result`: results of functions and of calls.
* `Expr.target_keeps`, `get?_of_variableValue`: what a scope is read for.
-/

namespace TokenFormula

/-- Neither a list, a dictionary nor a function. -/
def Value.IsScalar : Value → Prop
  | .list _ | .dict _ | .function _ => False
  | _ => True

/-! ## Operators -/

theorem numeric_scalar {symbol : String} {f : Number → Number → Except Fault Number}
    {a b c : Value} (h : numeric symbol f a b = .ok c) : c.IsScalar := by
  obtain ⟨m, -, h⟩ := bind_eq_ok h
  obtain ⟨n, -, h⟩ := bind_eq_ok h
  split at h
  · rw [← Except.ok.inj h]
    trivial
  · cases h

theorem withDivisor_scalar {symbol : String} {zero : EvalError}
    {f : Number → Number → Except Fault Number} {a b c : Value}
    (h : withDivisor symbol zero f a b = .ok c) : c.IsScalar := by
  obtain ⟨n, -, h⟩ := bind_eq_ok h
  dsimp only at h
  split at h
  · cases h
  · exact numeric_scalar h

theorem plus_scalar {a b c : Value} (h : plus a b = .ok c) : c.IsScalar := by
  unfold plus at h
  split at h
  · obtain ⟨s, -, h⟩ := bind_eq_ok h
    obtain ⟨t, -, h⟩ := bind_eq_ok h
    rw [← Except.ok.inj h]
    trivial
  · exact numeric_scalar h

theorem compared_scalar {r : Value.Relation} {a b c : Value} (h : compared r a b = .ok c) :
    c.IsScalar := by
  unfold compared at h
  split at h
  · rw [← Except.ok.inj h]
    trivial
  · cases h

theorem overflowedPower_scalar {a b c : Value} (h : overflowedPower a b = .ok c) :
    c.IsScalar := by
  obtain ⟨odd, -, h⟩ := bind_eq_ok h
  obtain ⟨negative, -, h⟩ := bind_eq_ok h
  rw [← Except.ok.inj h]
  trivial

theorem power_scalar {a b c : Value} (h : power a b = .ok c) : c.IsScalar := by
  unfold power powerWith at h
  split at h
  · exact overflowedPower_scalar h
  · cases h
  · exact overflowedPower_scalar h
  · rw [← Except.ok.inj h]
    trivial
  · cases h
  · rw [← Except.ok.inj h]
    trivial

/-- What two operands are combined to is the second one, or a scalar in normal
    form. -/
theorem combine_result {o : BinaryOp} {a b c : Value} (h : o.combine a b = .ok c) :
    c = b ∨ ∃ d : Value, d.IsScalar ∧ c = d.normalize := by
  have made {r : Except EvalError Value} (hr : ∀ d, r = .ok d → d.IsScalar)
      (h : r.map Value.normalize = .ok c) : c = b ∨ ∃ d : Value, d.IsScalar ∧ c = d.normalize := by
    obtain ⟨d, hd, rfl⟩ := map_eq_ok h
    exact .inr ⟨d, hr d hd, rfl⟩
  cases o with
  | or | and => exact .inl (Except.ok.inj h).symm
  | strictEq | strictNe | eq | ne => exact .inr ⟨.bool _, trivial, (Except.ok.inj h).symm⟩
  | lt | gt | le | ge => exact made (fun _ => compared_scalar) h
  | add => exact made (fun _ => plus_scalar) h
  | sub | mul => exact made (fun _ => numeric_scalar) h
  | div | mod => exact made (fun _ => withDivisor_scalar) h
  | pow =>
    refine made (fun d hd => ?_) h
    obtain ⟨m, -, hd⟩ := bind_eq_ok hd
    obtain ⟨n, -, hd⟩ := bind_eq_ok hd
    exact power_scalar (mapError_eq_ok hd)

/-- A unary operator gives the number of its operand, with its sign turned and in
    normal form or as it is, or a truth value. -/
theorem unaryValue_result {op a b : Value} (h : Expr.unaryValue op a = .ok b) :
    (∃ n, a.number? = some n ∧ (b = .num n ∨ b = .num n.negate.normalize)) ∨
      ∃ p, b = .bool p := by
  have number {symbol : String} {n : Number} (hn : operandNumber symbol a = .ok n) :
      a.number? = some n := by
    unfold operandNumber at hn
    split at hn
    · rename_i m hm
      rw [hm, Except.ok.inj hn]
    · cases hn
  unfold Expr.unaryValue at h
  split at h
  · split at h
    · rename_i o _
      cases o with
      | not => exact .inr ⟨_, (Except.ok.inj h).symm⟩
      | neg =>
        obtain ⟨n, hn, h⟩ := bind_eq_ok h
        exact .inl ⟨n, number hn, .inr (Except.ok.inj h).symm⟩
      | pos =>
        obtain ⟨n, hn, h⟩ := bind_eq_ok h
        exact .inl ⟨n, number hn, .inl (Except.ok.inj h).symm⟩
    · cases h
  · obtain ⟨shown, -, h⟩ := bind_eq_ok h
    cases h

/-! ## Calls -/

theorem best_mem {r : Value.Relation} (rest : List Value) : ∀ {first v : Value},
    best r first rest = .ok v → v ∈ first :: rest := by
  induction rest with
  | nil =>
    intro first v h
    rw [← Except.ok.inj h]
    exact List.mem_cons_self
  | cons w rest ih =>
    intro first v h
    obtain ⟨b, hb, h⟩ := bind_eq_ok h
    obtain ⟨better, -, hb⟩ := bind_eq_ok hb
    obtain rfl | hv := List.mem_cons.mp (ih h)
    · rw [← Except.ok.inj hb]
      split
      · exact List.mem_cons_of_mem _ List.mem_cons_self
      · exact List.mem_cons_self
    · exact List.mem_cons_of_mem _ (List.mem_cons_of_mem _ hv)

theorem realFunction_scalar {f : Float → Float} {v w : Value} (h : realFunction f v = .ok w) :
    w.IsScalar := by
  obtain ⟨x, -, h⟩ := bind_eq_ok h
  dsimp only at h
  split at h
  · cases h
  · rw [← Except.ok.inj h]
    trivial

theorem Value.IsScalar.normalize {v : Value} (h : v.IsScalar) : v.normalize.IsScalar := by
  cases v <;> exact h

theorem saturating_scalar {f : Float → Float} {v w : Value} (h : saturating f v = .ok w) :
    w.IsScalar := by
  unfold saturating at h
  split at h
  · rename_i r hr
    rw [← Except.ok.inj h]
    exact (realFunction_scalar hr).normalize
  · rw [← Except.ok.inj h]
    trivial
  · cases h

theorem toNeighbour_scalar {f : Number → Except Fault Int} {v w : Value}
    (h : toNeighbour f v = .ok w) : w.IsScalar := by
  unfold toNeighbour at h
  split at h
  · obtain ⟨n, -, h⟩ := bind_eq_ok h
    rw [← Except.ok.inj h]
    trivial
  · cases h

theorem roundHalfUp_scalar {v w : Value} (h : roundHalfUp v = .ok w) : w.IsScalar := by
  unfold roundHalfUp at h
  split at h
  · obtain ⟨n, -, h⟩ := bind_eq_ok h
    rw [← Except.ok.inj h]
    trivial
  · split at h <;> cases h

/-- A built-in function gives a scalar or one of its arguments. -/
theorem apply_result {f : Builtin} {args : List Value} {v : Value} (h : f.apply args = .ok v) :
    v.IsScalar ∨ v ∈ args := by
  unfold Builtin.apply at h
  split at h
  · rw [← Except.ok.inj h]
    exact .inl trivial
  · exact .inr (best_mem _ h)
  · rw [← Except.ok.inj h]
    exact .inl trivial
  · exact .inr (best_mem _ h)
  · exact .inl (power_scalar h)
  · split at h
    · rw [← Except.ok.inj h]
      exact .inl trivial
    · cases h
  · exact .inl (toNeighbour_scalar h)
  · exact .inl (toNeighbour_scalar h)
  · exact .inl (roundHalfUp_scalar h)
  · exact .inl (saturating_scalar h)
  · exact .inl (saturating_scalar h)
  · exact .inl (realFunction_scalar h)
  · exact .inl (realFunction_scalar h)
  · exact .inl (realFunction_scalar h)
  · obtain ⟨x, -, h⟩ := bind_eq_ok h
    rw [← Except.ok.inj h]
    exact .inl trivial
  · obtain ⟨x, -, h⟩ := bind_eq_ok h
    obtain ⟨y, -, h⟩ := bind_eq_ok h
    obtain ⟨z, -, h⟩ := bind_eq_ok h
    rw [← Except.ok.inj h]
    exact .inl trivial
  · split at h <;>
    · rw [← Except.ok.inj h]
      exact .inl trivial
  · cases h

/-- A call gives a scalar or an argument, in normal form, or what is called, unless
    that is a function. -/
theorem callValue_result {name : String} {f v : Value} {args : List Value}
    (h : Expr.callValue name f args = .ok v) :
    (∃ w : Value, (w.IsScalar ∨ w ∈ args) ∧ v = w.normalize) ∨
      v = f ∧ ∀ b, f ≠ .function b := by
  unfold Expr.callValue at h
  split at h
  · split at h
    · rename_i w hw
      exact .inl ⟨w, apply_result hw, (Except.ok.inj h).symm⟩
    · cases h
  · rename_i hf
    split at h
    · exact .inr ⟨(Except.ok.inj h).symm, hf⟩
    · cases h

/-! ## Reading -/

namespace Expr

/-- The value of a variable is bound. -/
theorem get?_of_variableValue {s : Scope} {name v : Value} (h : variableValue s name = .ok v) :
    ∃ key, s.get? key = some v := by
  unfold variableValue at h
  split at h
  · cases h
  · split at h
    · split at h
      · rename_i w hw
        exact ⟨_, hw.trans (congrArg some (Except.ok.inj h))⟩
      · cases h
    · obtain ⟨shown, -, h⟩ := bind_eq_ok h
      cases h

variable {P : Value → Prop}

/-- What a dictionary hands down to its values, it hands down along member names. -/
theorem member?_keeps
    (hP : ∀ {entries key v}, P (.dict entries) → Entries.get? key entries = some v → P v)
    {names : List String} : ∀ {v w : Value}, P v → member? v names = some w → P w := by
  induction names with
  | nil =>
    intro v w hv h
    obtain rfl := Option.some.inj h
    exact hv
  | cons key rest ih =>
    intro v w hv h
    unfold member? at h
    split at h
    · split at h
      · rename_i u hu
        exact ih (hP hv hu) h
      · cases h
    · cases h

/-- What bound values have, and dictionaries hand down, is had by what a dotted name
    leads to. -/
theorem target_keeps
    (hP : ∀ {entries key v}, P (.dict entries) → Entries.get? key entries = some v → P v)
    {s : Scope} (hs : ∀ key v, s.get? key = some v → P v) {dotted : String} {f : Value}
    (h : target s dotted = .ok f) : P f := by
  unfold target at h
  split at h
  · cases h
  · split at h
    · cases h
    · rename_i v hv
      split at h
      · rename_i w hw
        obtain rfl := Except.ok.inj h
        exact member?_keeps hP (hs _ v hv) hw
      · cases h

end Expr
end TokenFormula
