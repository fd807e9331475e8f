import TokenFormula.Proofs.Expr.Outcome
import TokenFormula.Proofs.Value.Fault
import TokenFormula.Proofs.Value.Text

/-!
# Errors that an evaluation reports

Operators report faults of arithmetic and calls report those of types too, so
that a tree whose names and operators are texts fails with errors of the
evaluation only. One fault gets through: a fallback that holds an integer with
too many digits cannot be shown in its own message.

Results:
* `EvalError.IsReported`: the errors of an evaluation, with their causes.
* `applyBinary_ofOperands`, `callValue_reported`, …: one lemma for each operation.
* `fails_evaluate`: a tree fails as one of its nodes does.
* `evaluate_error`: how a tree can fail, in every scope.
* `not_evaluate_error`: a fallback that cannot be shown.
-/

namespace TokenFormula

/-- The error is one of the evaluation. An operator catches faults of arithmetic,
    a call those of types too. -/
def EvalError.IsReported : EvalError → Prop
  | .escaped _ => False
  | .arithmetic _ cause => cause.isArithmetic
  | .failedCall _ cause => cause.isOfCall
  | _ => True

/-- The error is one that an operator has on the values of its operands. -/
def EvalError.IsOfOperands : EvalError → Prop
  | .expectsNumbers .. | .incomparable .. | .divisionByZero | .moduloByZero => True
  | .arithmetic _ cause => cause.isArithmetic
  | _ => False

open EvalError (IsReported IsOfOperands)

theorem EvalError.IsOfOperands.isReported {err : EvalError} (h : err.IsOfOperands) :
    err.IsReported := by
  cases err with
  | arithmetic symbol cause => exact h
  | expectsNumbers | incomparable | divisionByZero | moduloByZero => trivial
  | _ => exact h.elim

/-! ## Operators -/

theorem operandNumber_ofOperands (symbol : String) (v : Value) :
    FailsIn IsOfOperands (operandNumber symbol v) := by
  unfold operandNumber
  split
  · exact .ok _
  · exact .error trivial

theorem numeric_ofOperands (symbol : String) {f : Number → Number → Except Fault Number}
    (hf : ∀ m n, FailsIn (·.isArithmetic) (f m n)) (a b : Value) :
    FailsIn IsOfOperands (numeric symbol f a b) := by
  refine (operandNumber_ofOperands symbol a).bind fun m => ?_
  refine (operandNumber_ofOperands symbol b).bind fun n => ?_
  split
  · exact .ok _
  · rename_i cause hc
    exact .error (hf m n cause hc)

theorem withDivisor_ofOperands (symbol : String) {zero : EvalError} (hz : zero.IsOfOperands)
    {f : Number → Number → Except Fault Number} (hf : ∀ m n, FailsIn (·.isArithmetic) (f m n))
    (a b : Value) : FailsIn IsOfOperands (withDivisor symbol zero f a b) := by
  refine (operandNumber_ofOperands symbol b).bind fun n => ?_
  dsimp only
  split
  · exact .error hz
  · exact numeric_ofOperands symbol hf a b

theorem operandText_ofOperands (v : Value) : FailsIn IsOfOperands (operandText v) :=
  v.format_fault.mapError fun _ he => he ▸ rfl

theorem plus_ofOperands (a b : Value) : FailsIn IsOfOperands (plus a b) := by
  unfold plus
  split
  · exact (operandText_ofOperands a).bind fun _ => (operandText_ofOperands b).bind fun _ => .ok _
  · exact numeric_ofOperands "+" Number.add_fault a b

theorem compared_ofOperands (r : Value.Relation) (a b : Value) :
    FailsIn IsOfOperands (compared r a b) := by
  unfold compared
  split
  · exact .ok _
  · exact .error trivial

/-- A binary operator fails on the values of its operands only. -/
theorem applyBinary_ofOperands (op : BinaryOp) (a b : Value) :
    FailsIn IsOfOperands (applyBinary op a b) := by
  cases op with
  | or | and | eq | ne | strictEq | strictNe => exact .ok _
  | lt | gt | le | ge => exact compared_ofOperands _ a b
  | add => exact plus_ofOperands a b
  | sub => exact numeric_ofOperands "-" Number.sub_fault a b
  | mul => exact numeric_ofOperands "*" Number.mul_fault a b
  | div => exact withDivisor_ofOperands "/" (by trivial) Number.divide_fault a b
  | mod => exact withDivisor_ofOperands "%" (by trivial) Number.remainder_fault a b
  | pow =>
    refine (operandNumber_ofOperands "^" a).bind fun m => ?_
    refine (operandNumber_ofOperands "^" b).bind fun n => ?_
    exact (power_num_fault m n).mapError fun _ he => he

theorem combine_ofOperands (op : BinaryOp) (a b : Value) :
    FailsIn IsOfOperands (op.combine a b) := by
  unfold BinaryOp.combine
  split
  · exact .ok _
  · exact .ok _
  · exact (applyBinary_ofOperands op a b).map

theorem applyUnary_ofOperands (op : UnaryOp) (v : Value) :
    FailsIn IsOfOperands (applyUnary op v) := by
  cases op with
  | not => exact .ok _
  | neg => exact (operandNumber_ofOperands "-" v).bind fun _ => .ok _
  | pos => exact (operandNumber_ofOperands "+" v).bind fun _ => .ok _

namespace Expr

/-! ## Nodes -/

/-- A name or an operator is a text or missing. -/
def IsName : Value → Prop
  | .null | .text _ => True
  | _ => False

/-- The node's own name or operator is a text or missing. -/
def Named : Expr → Prop
  | binary op .. => IsName op
  | unary op .. => IsName op
  | var name _ => IsName name
  | call name .. => IsName name
  | assign name .. => IsName name
  | _ => True

/-- What a fallback holds can be shown. -/
def FallbackShown : Expr → Prop
  | literal v true _ => (Value.ofOption v).HasText
  | _ => True

section Nodes

variable {name op : Value}

theorem variableValue_reported (h : IsName name) (s : Scope) :
    FailsIn IsReported (variableValue s name) := by
  unfold variableValue
  split
  · exact .error trivial
  · split
    · split
      · exact .ok _
      · exact .error trivial
    · cases name with
      | null => exact .error trivial
      | text key => exact .error trivial
      | _ => exact h.elim

theorem operatorOf_reported (h : IsName op) : FailsIn IsReported (operatorOf op) := by
  unfold operatorOf
  split
  · split
    · exact .ok _
    · exact .error trivial
  · cases op with
    | null => exact .error trivial
    | text sign => exact .error trivial
    | _ => exact h.elim

theorem unaryValue_reported (h : IsName op) (v : Value) :
    FailsIn IsReported (unaryValue op v) := by
  unfold unaryValue
  split
  · split
    · exact (applyUnary_ofOperands _ v).mono fun _ => IsOfOperands.isReported
    · exact .error trivial
  · cases op with
    | null => exact .error trivial
    | text sign => exact .error trivial
    | _ => exact h.elim

theorem calleeName_reported (h : IsName name) : FailsIn IsReported (calleeName name) := by
  unfold calleeName
  cases name with
  | null => exact .error trivial
  | text dotted =>
    split
    · exact .error trivial
    · exact .ok _
  | _ => exact h.elim

theorem target_reported (s : Scope) (dotted : String) :
    FailsIn IsReported (target s dotted) := by
  unfold target
  split
  · exact .error trivial
  · split
    · exact .error trivial
    · split
      · exact .ok _
      · exact .error trivial

theorem callValue_reported (dotted : String) (f : Value) (args : List Value) :
    FailsIn IsReported (callValue dotted f args) := by
  unfold callValue
  split
  · split
    · exact .ok _
    · rename_i cause hc
      have hcall := Builtin.apply_fault _ args cause hc
      rw [if_pos hcall]
      exact .error hcall
  · split
    · exact .ok _
    · exact .error trivial

theorem bind_reported (h : IsName name) (hname : name.isTruthy = true) (v : Value) (s : Scope) :
    FailsIn IsReported (bind name v s) := by
  cases name with
  | text key => exact .ok _
  | null => cases hname
  | _ => exact h.elim

/-- A literal fails with a text that cannot be shown at most. -/
theorem literalValue_fault (v : Option Value) (fallback : Bool) :
    FailsIn (fun e => e.IsReported ∨
        e = .escaped (.tooManyDigits none) ∧ fallback = true ∧ ¬ (Value.ofOption v).HasText)
      (literalValue v fallback) := by
  unfold literalValue
  cases fallback with
  | false =>
    rw [if_neg Bool.false_ne_true]
    split
    · exact .ok _
    · exact .error (.inl trivial)
  | true =>
    rw [if_pos rfl]
    refine FailsIn.bind ?_ fun _ => .error (.inl trivial)
    unfold shown Value.plain
    split
    · exact .ok _
    · rename_i w _
      cases hd : (Value.ofOption v).display with
      | ok t => exact .ok _
      | error cause =>
        refine .error (.inr ⟨congrArg _ (Value.display_fault _ cause hd), rfl, fun ht => ?_⟩)
        obtain ⟨t, ht⟩ := (Value.exists_display_iff _).mpr ht
        rw [hd] at ht
        cases ht

end Nodes

/-! ## Trees -/

section Trees

variable {p : EvalError → Prop}

theorem fails_andThen {α β : Type} {r : Outcome α} {k : α → Scope → Outcome β}
    (h : FailsIn p r.1) (hk : ∀ a s, FailsIn p (k a s).1) : FailsIn p (r.andThen k).1 := by
  obtain ⟨q, s⟩ := r
  cases q with
  | ok a => exact hk a s
  | error e => exact .error (h e rfl)

/-- The node itself fails with an error with the property only, whatever the values of its
    parts and the scope are. -/
def OwnFails (p : EvalError → Prop) : Expr → Prop
  | absent => p .missingNode
  | literal v fallback _ => FailsIn p (literalValue v fallback)
  | var name _ => ∀ s, FailsIn p (variableValue s name)
  | group .. => True
  | unary op e _ =>
    ((e.isAbsent || !op.isTruthy) = true → p .incompleteUnary) ∧
      ∀ v, FailsIn p (unaryValue op v)
  | binary op l r _ =>
    ((l.isAbsent || r.isAbsent || !op.isTruthy) = true → p .incompleteBinary) ∧
      FailsIn p (operatorOf op) ∧ ∀ (o : BinaryOp) a b, FailsIn p (o.combine a b)
  | assign name _ _ =>
    (name.isTruthy = false → p .missingAssignmentName) ∧
      (name.isTruthy = true → ∀ v s, FailsIn p (bind name v s))
  | call name _ _ =>
    FailsIn p (calleeName name) ∧ (∀ s dotted, FailsIn p (target s dotted)) ∧
      ∀ dotted f vs, FailsIn p (callValue dotted f vs)

mutual

/-- A tree fails as one of its nodes does. -/
theorem fails_evaluate : (e : Expr) → e.Every (OwnFails p) → (s : Scope) →
    FailsIn p (e.evaluate s).1
  | absent, h, s => by
    rw [evaluate_absent]
    exact .error h
  | literal v fallback note, h, s => by
    rw [evaluate_literal]
    exact h
  | var name note, h, s => by
    rw [evaluate_var]
    exact h s
  | group e note, h, s => by
    rw [evaluate_group]
    exact fails_evaluate e h.2 s
  | unary op e note, ⟨⟨hincomplete, hvalue⟩, he⟩, s => by
    cases hc : e.isAbsent || !op.isTruthy with
    | true =>
      rw [evaluate_unary_incomplete note s hc]
      exact .error (hincomplete hc)
    | false =>
      rw [evaluate_unary note s hc]
      exact fails_andThen (fails_evaluate e he s) fun a _ => hvalue a
  | binary op l r note, ⟨⟨hincomplete, hop, hvalue⟩, hl, hr⟩, s => by
    cases hc : l.isAbsent || r.isAbsent || !op.isTruthy with
    | true =>
      rw [evaluate_binary_incomplete note s hc]
      exact .error (hincomplete hc)
    | false =>
      cases ho : operatorOf op with
      | error e =>
        rw [evaluate_binary_unknown note s hc ho]
        exact .error (hop e ho)
      | ok o =>
        rw [evaluate_binary note s hc ho]
        refine fails_andThen (fails_evaluate l hl s) fun a s₁ => ?_
        split
        · exact .ok a
        · exact fails_andThen (fails_evaluate r hr s₁) fun b _ => hvalue o a b
  | assign name e note, ⟨⟨hunnamed, hbind⟩, he⟩, s => by
    cases hname : name.isTruthy with
    | false =>
      rw [evaluate_assign_unnamed e note s hname]
      exact .error (hunnamed hname)
    | true =>
      rw [evaluate_assign e note s hname]
      refine fails_andThen (fails_evaluate e he s) fun v s₁ => ?_
      split
      · exact .ok v
      · rename_i err hb
        exact .error (hbind hname v s₁ err hb)
  | call name args note, ⟨⟨hname, htarget, hvalue⟩, hargs⟩, s => by
    rw [evaluate_call]
    refine fails_andThen hname fun dotted s₁ => ?_
    refine fails_andThen (htarget s₁ dotted) fun f s₂ => ?_
    exact fails_andThen (fails_evaluateArguments args hargs s₂) fun vs _ => hvalue dotted f vs

theorem fails_evaluateArguments : (args : List Expr) → EveryArgument (OwnFails p) args →
    (s : Scope) → FailsIn p (evaluateArguments args s).1
  | [], _, s => by
    rw [evaluateArguments_nil]
    exact .ok _
  | a :: rest, h, s => by
    rw [evaluateArguments_cons]
    refine fails_andThen (fails_evaluate a h.1 s) fun v s₁ => ?_
    exact fails_andThen (fails_evaluateArguments rest h.2 s₁) fun _ _ => .ok _

end

/-- What the literals of a tree may fail with besides errors of the evaluation. -/
def LiteralFails (p : EvalError → Prop) : Expr → Prop
  | literal v fallback _ => FailsIn p (literalValue v fallback)
  | _ => True

theorem ownFails_of_named (hp : ∀ e, e.IsReported → p e) {e : Expr} (hn : Named e)
    (hl : LiteralFails p e) : OwnFails p e := by
  cases e with
  | absent => exact hp _ trivial
  | literal => exact hl
  | var name note => exact fun s => (variableValue_reported hn s).mono hp
  | group => trivial
  | unary op e note => exact ⟨fun _ => hp _ trivial, fun v => (unaryValue_reported hn v).mono hp⟩
  | binary op l r note =>
    exact ⟨fun _ => hp _ trivial, (operatorOf_reported hn).mono hp, fun o a b =>
      (combine_ofOperands o a b).mono fun err h => hp err h.isReported⟩
  | assign name e note =>
    exact ⟨fun _ => hp _ trivial, fun hname v s => (bind_reported hn hname v s).mono hp⟩
  | call name args note =>
    exact ⟨(calleeName_reported hn).mono hp, fun s dotted => (target_reported s dotted).mono hp,
      fun dotted f vs => (callValue_reported dotted f vs).mono hp⟩

/-- A tree whose names are texts or missing fails with an error of the evaluation or as one of
    its literals. -/
theorem evaluate_fails (hp : ∀ e, e.IsReported → p e) (e : Expr) (hn : e.Every Named)
    (hl : e.Every (LiteralFails p)) (s : Scope) : FailsIn p (e.evaluate s).1 :=
  fails_evaluate e (every_mono (fun _ h => ownFails_of_named hp h.1 h.2) e (every_and hn hl)) s

end Trees

variable {e : Expr}

/-- A tree whose names and operators are texts or missing fails with errors of
    the evaluation, in every scope. The one other failure is that of a fallback
    with an integer that has too many digits to be shown. -/
theorem evaluate_error (hn : e.Every Named) (s : Scope) :
    FailsIn (fun err => err.IsReported ∨
        err = .escaped (.tooManyDigits none) ∧ ¬ e.Every FallbackShown) (e.evaluate s).1 := by
  by_cases hf : e.Every FallbackShown
  · refine (evaluate_fails (fun _ h => h) e hn (every_mono (fun t ht => ?_) e hf) s).mono
      fun _ h => .inl h
    cases t with
    | literal v fallback note =>
      refine (literalValue_fault v fallback).mono fun err herr => ?_
      obtain herr | ⟨-, rfl, hno⟩ := herr
      · exact herr
      · exact absurd ht hno
    | _ => trivial
  · refine evaluate_fails (fun _ h => .inl h) e hn (every_of_forall (fun t => ?_) e) s
    cases t with
    | literal v fallback note =>
      refine (literalValue_fault v fallback).mono fun err herr => ?_
      exact herr.imp_right fun h => ⟨h.1, hf⟩
    | _ => trivial

/-- An assignment of a sum: of a call with a fallback for its argument and of a
    variable without a name. -/
def unsupportedFloor : Expr :=
  assign (.text "x") (binary (.text "+")
    (call (.text "Math.floor") [literal (some (.text "...")) true none] none)
    (var .null none) none) none

-- The fallback is evaluated first, and its error is reported.
example : (unsupportedFloor.evaluate Scope.empty.withTables).1.mapError EvalError.message =
    .error "Unsupported expression construct: ..." := rfl

/-- A fallback that holds the least integer with too many digits. -/
def longFallback : Expr :=
  literal (some (.int Number.textLimit)) true none

/-- The tree has no names and a scalar for its value, and it fails with an error
    that is none of the evaluation. -/
theorem not_evaluate_error :
    longFallback.Every Named ∧ ∃ cause,
      (longFallback.evaluate .empty).1 = .error (.escaped cause) ∧
      ¬ (EvalError.escaped cause).IsReported := by
  have hlong : (Value.int Number.textLimit).display = .error (.tooManyDigits none) := by
    rw [Value.int, Value.display, Number.display, Number.integerText,
      if_neg (by rw [Int.natAbs_natCast]; exact Nat.lt_irrefl _)]
  refine ⟨trivial, .tooManyDigits none, ?_, id⟩
  rw [longFallback, evaluate_literal]
  show ((Value.int Number.textLimit).display.mapError EvalError.escaped >>= fun t =>
    Except.error (.unsupportedConstruct t)) = _
  rw [hlong]
  rfl

end Expr
end TokenFormula
