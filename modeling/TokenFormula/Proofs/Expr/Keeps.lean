import TokenFormula.Proofs.Expr.Outcome

/-!
# Evaluations that leave the scope

Only assignments write. An evaluation leaves the scope as it is if each
assignment that it completes binds the value that was there before. A tree
whose assignments all stand at its root completes none of them before it fails.

Results:
* `KeepsScope`: no assignment that an evaluation completes changes the scope.
* `evaluate_of_keepsScope`: the scope after such an evaluation.
* `keepsScope_of_writesLast`: trees that assign at their root only.
-/

namespace TokenFormula

open Outcome

/-- A sequence leaves the scope if both of its parts do. -/
theorem Outcome.andThen_snd {α β : Type} {r : Outcome α} {k : α → Scope → Outcome β} {s : Scope}
    (h : r.2 = s) (hk : ∀ a, r = (.ok a, s) → (k a s).2 = s) : (r.andThen k).2 = s := by
  match r, h, hk with
  | (.ok a, _), rfl, hk => exact hk a rfl
  | (.error e, _), rfl, _ => rfl

namespace Expr

mutual

/-- No assignment that the evaluation of the tree completes changes the scope. -/
def KeepsScope : Expr → Scope → Prop
  | binary op l r _, s =>
    (l.isAbsent || r.isAbsent || !op.isTruthy) = false → ∀ o, operatorOf op = .ok o →
      l.KeepsScope s ∧
        ∀ a s₁, l.evaluate s = (.ok a, s₁) → o.decides a = false → r.KeepsScope s₁
  | unary op e _, s => (e.isAbsent || !op.isTruthy) = false → e.KeepsScope s
  | call name args _, s =>
    ∀ dotted f, calleeName name = .ok dotted → target s dotted = .ok f →
      ArgumentsKeepScope args s
  | assign name e _, s =>
    name.isTruthy = true → e.KeepsScope s ∧
      ∀ v s₁ s₂, e.evaluate s = (.ok v, s₁) → bind name v s₁ = .ok s₂ → s₂ = s₁
  | group e _, s => e.KeepsScope s
  | absent, _ | literal .., _ | var .., _ => True

/-- No assignment that the evaluation of the arguments completes changes the
    scope. -/
def ArgumentsKeepScope : List Expr → Scope → Prop
  | [], _ => True
  | a :: rest, s =>
    a.KeepsScope s ∧ ∀ v s₁, a.evaluate s = (.ok v, s₁) → ArgumentsKeepScope rest s₁

end

mutual

/-- Such an evaluation leaves the scope as it is, whether it fails or not. -/
theorem evaluate_of_keepsScope : (e : Expr) → (s : Scope) → e.KeepsScope s →
    (e.evaluate s).2 = s
  | absent, s, _ => by rw [evaluate_absent]
  | literal v fallback note, s, _ => by rw [evaluate_literal]
  | var name note, s, _ => by rw [evaluate_var]
  | group body note, s, h => by
    rw [evaluate_group]
    exact evaluate_of_keepsScope body s h
  | unary op e note, s, h => by
    cases hc : e.isAbsent || !op.isTruthy with
    | true => rw [evaluate_unary_incomplete note s hc]
    | false =>
      rw [evaluate_unary note s hc]
      exact andThen_snd (evaluate_of_keepsScope e s (h hc)) fun _ _ => rfl
  | binary op l r note, s, h => by
    cases hc : l.isAbsent || r.isAbsent || !op.isTruthy with
    | true => rw [evaluate_binary_incomplete note s hc]
    | false =>
      cases ho : operatorOf op with
      | error e => rw [evaluate_binary_unknown note s hc ho]
      | ok o =>
        rw [evaluate_binary note s hc ho]
        obtain ⟨hl, hr⟩ := h hc o ho
        refine andThen_snd (evaluate_of_keepsScope l s hl) fun a ha => ?_
        cases hd : o.decides a with
        | true => rfl
        | false => exact andThen_snd (evaluate_of_keepsScope r s (hr a s ha hd)) fun _ _ => rfl
  | assign name e note, s, h => by
    cases hn : name.isTruthy with
    | false => rw [evaluate_assign_unnamed e note s hn]
    | true =>
      rw [evaluate_assign e note s hn]
      obtain ⟨he, hb⟩ := h hn
      refine andThen_snd (evaluate_of_keepsScope e s he) fun v hv => ?_
      cases hbind : bind name v s with
      | error _ => rfl
      | ok s₂ => exact hb v s s₂ hv hbind
  | call name args note, s, h => by
    rw [evaluate_call]
    refine andThen_snd rfl fun dotted hd => andThen_snd rfl fun f hf => ?_
    have hargs := h dotted f (congrArg Prod.fst hd) (congrArg Prod.fst hf)
    exact andThen_snd (evaluateArguments_of_keepsScope args s hargs) fun _ _ => rfl

theorem evaluateArguments_of_keepsScope : (args : List Expr) → (s : Scope) →
    ArgumentsKeepScope args s → (evaluateArguments args s).2 = s
  | [], s, _ => by rw [evaluateArguments_nil]
  | a :: rest, s, h => by
    rw [evaluateArguments_cons]
    refine andThen_snd (evaluate_of_keepsScope a s h.1) fun v hv => ?_
    exact andThen_snd (evaluateArguments_of_keepsScope rest s (h.2 v s hv)) fun _ _ => rfl

end

/-! ## Assignments at the root -/

mutual

/-- The tree holds no assignment. -/
def WritesNothing : Expr → Bool
  | binary _ l r _ => l.WritesNothing && r.WritesNothing
  | unary _ e _ | group e _ => e.WritesNothing
  | call _ args _ => ArgumentsWriteNothing args
  | assign .. => false
  | absent | literal .. | var .. => true

/-- The arguments hold no assignment. -/
def ArgumentsWriteNothing : List Expr → Bool
  | [] => true
  | a :: rest => a.WritesNothing && ArgumentsWriteNothing rest

end

/-- All assignments of the tree stand at its root, one inside the other. -/
def WritesLast : Expr → Bool
  | assign _ e _ | group e _ => e.WritesLast
  | e => e.WritesNothing

mutual

theorem keepsScope_of_writesNothing : (e : Expr) → e.WritesNothing = true → ∀ s, e.KeepsScope s
  | absent, _, _ | literal .., _, _ | var .., _, _ => trivial
  | group body _, h, s => keepsScope_of_writesNothing body h s
  | unary _ e _, h, s => fun _ => keepsScope_of_writesNothing e h s
  | binary _ l r _, h, s => by
    obtain ⟨hl, hr⟩ := Bool.and_eq_true_iff.mp h
    intro _ o _
    exact ⟨keepsScope_of_writesNothing l hl s, fun a s₁ _ _ =>
      keepsScope_of_writesNothing r hr s₁⟩
  | call _ args _, h, s => fun _ _ _ _ => argumentsKeepScope_of_writeNothing args h s
  | assign .., h, _ => by cases h

theorem argumentsKeepScope_of_writeNothing : (args : List Expr) →
    ArgumentsWriteNothing args = true → ∀ s, ArgumentsKeepScope args s
  | [], _, _ => trivial
  | a :: rest, h, s => by
    obtain ⟨ha, hrest⟩ := Bool.and_eq_true_iff.mp h
    exact ⟨keepsScope_of_writesNothing a ha s, fun _ s₁ _ =>
      argumentsKeepScope_of_writeNothing rest hrest s₁⟩

end

/-- Binding fails only on a target that cannot be bound at all. -/
theorem isOwn_of_bind {name v : Value} {s : Scope} {err : EvalError}
    (h : bind name v s = .error err) : err.isOwn = false := by
  unfold bind at h
  split at h
  · cases h
  · split at h
    · cases h
    · cases h
      rfl

/-- A tree that assigns at its root only completes no assignment before it fails
    with an error of its own. -/
theorem keepsScope_of_writesLast : (e : Expr) → e.WritesLast = true → ∀ {s s' : Scope}
    {err : EvalError}, e.evaluate s = (.error err, s') → err.isOwn = true → e.KeepsScope s
  | group e note, h, s, s', err, he, ho => by
    rw [evaluate_group] at he
    exact keepsScope_of_writesLast e h he ho
  | assign name e note, h, s, s', err, he, ho => by
    intro hn
    rw [evaluate_assign e note s hn] at he
    cases hv : e.evaluate s with
    | mk outcome s₁ =>
      rw [hv] at he
      cases outcome with
      | error err' =>
        cases he
        refine ⟨keepsScope_of_writesLast e h hv ho, fun v s₁ s₂ hok => ?_⟩
        cases hok
      | ok v =>
        rw [andThen_ok] at he
        cases hb : bind name v s₁ with
        | ok s₂ =>
          rw [hb] at he
          cases he
        | error err' =>
          rw [hb] at he
          cases he
          rw [isOwn_of_bind hb] at ho
          cases ho
  | absent, h, s, _, _, _, _ | literal .., h, s, _, _, _, _ | var .., h, s, _, _, _, _
  | unary .., h, s, _, _, _, _ | binary .., h, s, _, _, _, _ | call .., h, s, _, _, _, _ =>
    keepsScope_of_writesNothing _ h s

end Expr
end TokenFormula
