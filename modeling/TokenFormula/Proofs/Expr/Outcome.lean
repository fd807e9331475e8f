import TokenFormula.Expr.Eval
import TokenFormula.Proofs.Sequence

/-!
# Outcomes of trees

An outcome is the result or error of an evaluation together with the scope that
it leaves. The outcome of a tree is put together from the outcomes of its parts,
so a rewriting of trees is compared part by part, and what every write keeps is
kept by a whole evaluation.

Results:
* `evaluate_binary`, `evaluate_call`, …: the outcome of a tree by its parts.
* `Follows`: a rewritten tree does what the tree does, always or where the tree
  succeeds; `Follows.binary`, `Follows.call`, …: it is a congruence.
* `Stable.evaluate`: an invariant of values and scopes along an evaluation.
-/

namespace TokenFormula

/-- The result or the error of an evaluation, and the scope that it leaves. -/
abbrev Outcome (α : Type) := Except EvalError α × Scope

namespace Outcome

variable {α β : Type}

/-- Goes on after a success. -/
def andThen (r : Outcome α) (k : α → Scope → Outcome β) : Outcome β :=
  match r with
  | (.ok a, s) => k a s
  | (.error e, s) => (.error e, s)

@[simp] theorem andThen_ok (a : α) (s : Scope) (k : α → Scope → Outcome β) :
    andThen (.ok a, s) k = k a s := rfl

@[simp] theorem andThen_error (e : EvalError) (s : Scope) (k : α → Scope → Outcome β) :
    andThen (.error e, s) k = (.error e, s) := rfl

theorem andThen_eq_ok {r : Outcome α} {k : α → Scope → Outcome β} {b : β} {s' : Scope}
    (h : r.andThen k = (.ok b, s')) : ∃ a s, r = (.ok a, s) ∧ k a s = (.ok b, s') := by
  match r, h with
  | (.ok a, s), h => exact ⟨a, s, rfl, h⟩
  | (.error e, s), h => cases (congrArg Prod.fst h)

/-- A sequence of two computations. -/
theorem run_bind (x : Evaluation α) (f : α → Evaluation β) (s : Scope) :
    (x >>= f).run s = andThen (x.run s) fun a s => (f a).run s := by
  rw [run_bind_eq]
  match x.run s with
  | (.ok a, s') => rfl
  | (.error e, s') => rfl

/-- Going on with a result and the scope as they are. -/
theorem andThen_return (r : Outcome α) : (r.andThen fun a s => (.ok a, s)) = r := by
  match r with
  | (.ok a, s) => rfl
  | (.error e, s) => rfl

end Outcome

open Outcome

namespace BinaryOp

/-- The first operand alone gives the result. -/
def decides (op : BinaryOp) (a : Value) : Bool :=
  match op with
  | and => !a.isTruthy
  | or => a.isTruthy
  | _ => false

/-- The result from both operands. -/
def combine (op : BinaryOp) (a b : Value) : Except EvalError Value :=
  match op with
  | and | or => .ok b
  | op => (applyBinary op a b).map Value.normalize

end BinaryOp

namespace Expr

/-- The outcome of arguments. -/
def evaluateArguments (args : List Expr) (s : Scope) : Outcome (List Value) :=
  (evalArguments args).run s

/-! ## The outcome of a tree by its parts -/

section Parts

-- Every lemma of this section opens the evaluation once.
attribute [local simp] eval evalArguments

theorem run_map {α β : Type} (f : α → β) (r : Except EvalError α) (s : Scope) :
    (pureOutcome r >>= fun a => pure (f a) : Evaluation β).run s = (r.map f, s) := by
  rw [run_bind]
  show andThen (r, s) _ = (r.map f, s)
  cases r <;> rfl

theorem evaluate_absent (s : Scope) : absent.evaluate s = (.error .missingNode, s) := by
  rw [evaluate, eval]
  rfl

theorem evaluate_literal (v : Option Value) (fallback : Bool) (note : Option Note) (s : Scope) :
    (literal v fallback note).evaluate s = (literalValue v fallback, s) := by
  rw [evaluate, eval]
  rfl

theorem evaluate_var (name : Value) (note : Option Note) (s : Scope) :
    (var name note).evaluate s = (variableValue s name, s) := by
  rw [evaluate, eval]
  rfl

theorem evaluate_group (body : Expr) (note : Option Note) (s : Scope) :
    (group body note).evaluate s = body.evaluate s := by
  rw [evaluate, eval]
  rfl

theorem evaluate_unary_incomplete {op : Value} {e : Expr} (note : Option Note) (s : Scope)
    (h : (e.isAbsent || !op.isTruthy) = true) :
    (unary op e note).evaluate s = (.error .incompleteUnary, s) := by
  rw [evaluate, eval, if_pos h]
  rfl

theorem evaluate_unary {op : Value} {e : Expr} (note : Option Note) (s : Scope)
    (h : (e.isAbsent || !op.isTruthy) = false) :
    (unary op e note).evaluate s = andThen (e.evaluate s) fun v s => (unaryValue op v, s) := by
  rw [evaluate, eval, if_neg (by rw [h]; exact Bool.false_ne_true), run_bind]
  rfl

theorem evaluate_binary_incomplete {op : Value} {l r : Expr} (note : Option Note) (s : Scope)
    (h : (l.isAbsent || r.isAbsent || !op.isTruthy) = true) :
    (binary op l r note).evaluate s = (.error .incompleteBinary, s) := by
  rw [evaluate, eval, if_pos h]
  rfl

theorem evaluate_binary_unknown {op : Value} {l r : Expr} {e : EvalError} (note : Option Note)
    (s : Scope) (h : (l.isAbsent || r.isAbsent || !op.isTruthy) = false)
    (ho : operatorOf op = .error e) : (binary op l r note).evaluate s = (.error e, s) := by
  rw [evaluate, eval, if_neg (by rw [h]; exact Bool.false_ne_true), run_bind, ho]
  rfl

/-- The operands from left to right; the second only where it is needed. -/
theorem evaluate_binary {op : Value} {l r : Expr} {o : BinaryOp} (note : Option Note) (s : Scope)
    (h : (l.isAbsent || r.isAbsent || !op.isTruthy) = false) (ho : operatorOf op = .ok o) :
    (binary op l r note).evaluate s =
      andThen (l.evaluate s) fun a s =>
        if o.decides a then (.ok a, s)
        else andThen (r.evaluate s) fun b s => (o.combine a b, s) := by
  rw [evaluate, eval, if_neg (by rw [h]; exact Bool.false_ne_true), run_bind, ho]
  cases o with
  | and =>
    show (l.eval >>= fun a => if a.isTruthy then r.eval else pure a).run s = _
    rw [run_bind]
    congr 1
    funext a s₁
    cases ha : a.isTruthy with
    | false => simp only [BinaryOp.decides, ha]; rfl
    | true =>
      simp only [BinaryOp.decides, ha, if_true, Bool.not_true, Bool.false_eq_true, if_false]
      exact (andThen_return _).symm
  | or =>
    show (l.eval >>= fun a => if a.isTruthy then pure a else r.eval).run s = _
    rw [run_bind]
    congr 1
    funext a s₁
    cases ha : a.isTruthy with
    | true => simp only [BinaryOp.decides, ha]; rfl
    | false =>
      simp only [BinaryOp.decides, ha, Bool.false_eq_true, if_false]
      exact (andThen_return _).symm
  | _ =>
    show (l.eval >>= fun a => r.eval >>= fun b =>
      pureOutcome (applyBinary _ a b) >>= fun v => pure v.normalize).run s = _
    rw [run_bind]
    congr 1
    funext a s₁
    rw [run_bind]
    refine congrArg (andThen (r.evaluate s₁)) ?_
    funext b s₂
    exact run_map Value.normalize (applyBinary _ a b) s₂

theorem evaluate_assign_unnamed {name : Value} (e : Expr) (note : Option Note) (s : Scope)
    (h : name.isTruthy = false) :
    (assign name e note).evaluate s = (.error .missingAssignmentName, s) := by
  rw [evaluate, eval, if_pos (by rw [h]; rfl)]
  rfl

theorem evaluate_assign {name : Value} (e : Expr) (note : Option Note) (s : Scope)
    (h : name.isTruthy = true) :
    (assign name e note).evaluate s = andThen (e.evaluate s) fun v s =>
      match bind name v s with
      | .ok s' => (.ok v, s')
      | .error err => (.error err, s) := by
  rw [evaluate, eval, if_neg (by rw [h]; exact Bool.false_ne_true), run_bind]
  congr 1
  funext v s₁
  show (pureOutcome (bind name v s₁) >>= fun s' => set s' >>= fun _ => pure v).run s₁ = _
  rw [run_bind]
  show andThen (bind name v s₁, s₁) _ = _
  cases bind name v s₁ <;> rfl

/-- The name and the target of a call come before its arguments. -/
theorem evaluate_call (name : Value) (args : List Expr) (note : Option Note) (s : Scope) :
    (call name args note).evaluate s =
      andThen (calleeName name, s) fun dotted s => andThen (target s dotted, s) fun f s =>
        andThen (evaluateArguments args s) fun vs s => (callValue dotted f vs, s) := by
  rw [evaluate, eval, run_bind]
  congr 1
  funext dotted s₁
  show (pureOutcome (target s₁ dotted) >>= fun f => evalArguments args >>= fun vs =>
    pureOutcome (callValue dotted f vs)).run s₁ = _
  rw [run_bind]
  congr 1
  funext f s₂
  rw [run_bind]
  rfl

theorem evaluateArguments_nil (s : Scope) : evaluateArguments [] s = (.ok [], s) := by
  rw [evaluateArguments, evalArguments]
  rfl

theorem evaluateArguments_cons (a : Expr) (rest : List Expr) (s : Scope) :
    evaluateArguments (a :: rest) s =
      andThen (a.evaluate s) fun v s => andThen (evaluateArguments rest s) fun vs s =>
        (.ok (v :: vs), s) := by
  rw [evaluateArguments, evalArguments, run_bind]
  congr 1
  funext v s₁
  rw [run_bind]
  rfl

end Parts

end Expr

/-! ## Rewritten trees -/

/-- A rewriting keeps an outcome; if it is `lax`, it may change failures. -/
def Follows {α : Type} (lax : Prop) (r r' : Outcome α) : Prop :=
  r' = r ∨ lax ∧ ∃ e s, r = (.error e, s)

namespace Follows

variable {α β : Type} {lax : Prop} {r r' : Outcome α}

theorem refl (r : Outcome α) : Follows lax r r :=
  .inl rfl

theorem of_eq (h : r' = r) : Follows lax r r' :=
  .inl h

/-- A rewriting that is not lax changes nothing. -/
theorem eq (h : Follows False r r') : r' = r := by
  obtain h | ⟨h, -⟩ := h
  · exact h
  · exact h.elim

/-- A success stays. -/
theorem ok (h : Follows lax r r') {a : α} {s : Scope} (hr : r = (.ok a, s)) : r' = (.ok a, s) := by
  obtain rfl | ⟨-, e, s', he⟩ := h
  · exact hr
  · rw [hr] at he
    cases congrArg Prod.fst he

theorem of_ok (h : ∀ a s, r = (.ok a, s) → r' = (.ok a, s)) : Follows True r r' := by
  match r, h with
  | (.ok a, s), h => exact .inl (h a s rfl)
  | (.error e, s), _ => exact .inr ⟨trivial, e, s, rfl⟩

theorem trans {r'' : Outcome α} (h : Follows lax r r') (h' : Follows lax r' r'') :
    Follows lax r r'' := by
  obtain rfl | h := h
  · exact h'
  · exact .inr h

theorem andThen {k k' : α → Scope → Outcome β} (h : Follows lax r r')
    (hk : ∀ a s, r = (.ok a, s) → Follows lax (k a s) (k' a s)) :
    Follows lax (r.andThen k) (r'.andThen k') := by
  obtain rfl | ⟨hl, e, s, rfl⟩ := h
  · match r', hk with
    | (.ok a, s), hk => exact hk a s rfl
    | (.error e, s), _ => exact refl _
  · exact .inr ⟨hl, e, s, rfl⟩

end Follows

namespace Expr

section Congruence

variable {lax : Prop} {s : Scope}

theorem follows_group {e e' : Expr} {note note' : Option Note}
    (h : Follows lax (e.evaluate s) (e'.evaluate s)) :
    Follows lax ((group e note).evaluate s) ((group e' note').evaluate s) := by
  rw [evaluate_group, evaluate_group]
  exact h

theorem follows_unary {op : Value} {e e' : Expr} {note note' : Option Note}
    (ha : e'.isAbsent = e.isAbsent) (h : Follows lax (e.evaluate s) (e'.evaluate s)) :
    Follows lax ((unary op e note).evaluate s) ((unary op e' note').evaluate s) := by
  cases hc : e.isAbsent || !op.isTruthy with
  | true =>
    rw [evaluate_unary_incomplete note s hc,
      evaluate_unary_incomplete note' s (by rw [ha]; exact hc)]
    exact .refl _
  | false =>
    rw [evaluate_unary note s hc, evaluate_unary note' s (by rw [ha]; exact hc)]
    exact h.andThen fun _ _ _ => .refl _

/-- The second operand is compared only where it is evaluated. -/
theorem follows_binary {op : Value} {l l' r r' : Expr} {note note' : Option Note}
    (hal : l'.isAbsent = l.isAbsent) (har : r'.isAbsent = r.isAbsent)
    (hl : Follows lax (l.evaluate s) (l'.evaluate s))
    (hr : ∀ o a s₁, operatorOf op = .ok o → l.evaluate s = (.ok a, s₁) → o.decides a = false →
      Follows lax (r.evaluate s₁) (r'.evaluate s₁)) :
    Follows lax ((binary op l r note).evaluate s) ((binary op l' r' note').evaluate s) := by
  have hc' : (l'.isAbsent || r'.isAbsent || !op.isTruthy) =
      (l.isAbsent || r.isAbsent || !op.isTruthy) := by
    rw [hal, har]
  cases hc : l.isAbsent || r.isAbsent || !op.isTruthy with
  | true =>
    rw [evaluate_binary_incomplete note s hc, evaluate_binary_incomplete note' s (hc'.trans hc)]
    exact .refl _
  | false =>
    cases ho : operatorOf op with
    | error e =>
      rw [evaluate_binary_unknown note s hc ho, evaluate_binary_unknown note' s (hc'.trans hc) ho]
      exact .refl _
    | ok o =>
      rw [evaluate_binary note s hc ho, evaluate_binary note' s (hc'.trans hc) ho]
      refine hl.andThen fun a s₁ ha => ?_
      cases hd : o.decides a with
      | true => exact .refl _
      | false => exact (hr o a s₁ ho ha hd).andThen fun _ _ _ => .refl _

theorem follows_assign {name : Value} {e e' : Expr} {note note' : Option Note}
    (h : Follows lax (e.evaluate s) (e'.evaluate s)) :
    Follows lax ((assign name e note).evaluate s) ((assign name e' note').evaluate s) := by
  cases hn : name.isTruthy with
  | false =>
    rw [evaluate_assign_unnamed e note s hn, evaluate_assign_unnamed e' note' s hn]
    exact .refl _
  | true =>
    rw [evaluate_assign e note s hn, evaluate_assign e' note' s hn]
    exact h.andThen fun _ _ _ => .refl _

theorem follows_call {name : Value} {args args' : List Expr} {note note' : Option Note}
    (h : Follows lax (evaluateArguments args s) (evaluateArguments args' s)) :
    Follows lax ((call name args note).evaluate s) ((call name args' note').evaluate s) := by
  rw [evaluate_call, evaluate_call]
  refine (Follows.refl (calleeName name, s)).andThen fun dotted s₁ hd => ?_
  obtain rfl := congrArg Prod.snd hd
  refine (Follows.refl (target s dotted, s)).andThen fun f s₂ hf => ?_
  obtain rfl := congrArg Prod.snd hf
  exact h.andThen fun _ _ _ => .refl _

theorem follows_cons {a a' : Expr} {rest rest' : List Expr}
    (ha : Follows lax (a.evaluate s) (a'.evaluate s))
    (hr : ∀ v s₁, a.evaluate s = (.ok v, s₁) →
      Follows lax (evaluateArguments rest s₁) (evaluateArguments rest' s₁)) :
    Follows lax (evaluateArguments (a :: rest) s) (evaluateArguments (a' :: rest') s) := by
  rw [evaluateArguments_cons, evaluateArguments_cons]
  exact ha.andThen fun v s₁ hv => (hr v s₁ hv).andThen fun _ _ _ => .refl _

end Congruence

end Expr

/-! ## Invariants -/

/-- The scope satisfies `P`, and a result satisfies `V`. -/
def Meets {α : Type} (V : α → Prop) (P : Scope → Prop) (r : Outcome α) : Prop :=
  P r.2 ∧ ∀ a, r.1 = .ok a → V a

namespace Meets

variable {α β : Type} {V : α → Prop} {W : β → Prop} {P : Scope → Prop}

theorem ok {a : α} {s : Scope} (hV : V a) (hP : P s) : Meets V P (.ok a, s) := by
  refine ⟨hP, fun b hb => ?_⟩
  cases hb
  exact hV

theorem error {e : EvalError} {s : Scope} (hP : P s) : Meets V P (.error e, s) :=
  ⟨hP, fun b hb => by cases hb⟩

/-- A result that does not touch the scope. -/
theorem of_result {r : Except EvalError α} {s : Scope} (hr : ∀ a, r = .ok a → V a) (hP : P s) :
    Meets V P (r, s) :=
  ⟨hP, hr⟩

theorem andThen {r : Outcome α} {k : α → Scope → Outcome β} (h : Meets V P r)
    (hk : ∀ a s, r = (.ok a, s) → V a → P s → Meets W P (k a s)) :
    Meets W P (r.andThen k) := by
  match r, h, hk with
  | (.ok a, s), h, hk => exact hk a s rfl (h.2 a rfl) h.1
  | (.error e, s), h, _ => exact error h.1

end Meets

namespace Expr

mutual

/-- Every tree inside a tree, itself included, has the property. -/
def Every (p : Expr → Prop) : Expr → Prop
  | absent => p absent
  | binary op l r note => p (binary op l r note) ∧ l.Every p ∧ r.Every p
  | unary op e note => p (unary op e note) ∧ e.Every p
  | var name note => p (var name note)
  | literal v fallback note => p (literal v fallback note)
  | call name args note => p (call name args note) ∧ EveryArgument p args
  | assign name e note => p (assign name e note) ∧ e.Every p
  | group e note => p (group e note) ∧ e.Every p

/-- Every tree inside the arguments has the property. -/
def EveryArgument (p : Expr → Prop) : List Expr → Prop
  | [] => True
  | a :: rest => a.Every p ∧ EveryArgument p rest

end

variable {p q : Expr → Prop}

theorem Every.root {e : Expr} (h : e.Every p) : p e := by
  cases e with
  | absent | literal | var => exact h
  | binary | unary | call | assign | group => exact h.1

mutual

/-- What a tree with the property inside has is also had by every tree inside it. -/
theorem every_of_every (h : ∀ e, e.Every p → q e) : (e : Expr) → e.Every p → e.Every q
  | absent, he | var .., he | literal .., he => h _ he
  | binary _ l r _, he => ⟨h _ he, every_of_every h l he.2.1, every_of_every h r he.2.2⟩
  | unary _ e _, he | assign _ e _, he | group e _, he => ⟨h _ he, every_of_every h e he.2⟩
  | call _ args _, he => ⟨h _ he, everyArgument_of_every h args he.2⟩

theorem everyArgument_of_every (h : ∀ e, e.Every p → q e) : (args : List Expr) →
    EveryArgument p args → EveryArgument q args
  | [], _ => trivial
  | a :: rest, he => ⟨every_of_every h a he.1, everyArgument_of_every h rest he.2⟩

end

theorem every_mono (h : ∀ e, p e → q e) (e : Expr) (he : e.Every p) : e.Every q :=
  every_of_every (fun _ he => h _ he.root) e he

mutual

theorem every_and : {e : Expr} → e.Every p → e.Every q → e.Every fun e => p e ∧ q e
  | absent, hp, hq | var .., hp, hq | literal .., hp, hq => ⟨hp, hq⟩
  | binary .., hp, hq => ⟨⟨hp.1, hq.1⟩, every_and hp.2.1 hq.2.1, every_and hp.2.2 hq.2.2⟩
  | unary .., hp, hq | assign .., hp, hq | group .., hp, hq =>
    ⟨⟨hp.1, hq.1⟩, every_and hp.2 hq.2⟩
  | call .., hp, hq => ⟨⟨hp.1, hq.1⟩, everyArgument_and hp.2 hq.2⟩

theorem everyArgument_and : {args : List Expr} → EveryArgument p args → EveryArgument q args →
    EveryArgument (fun e => p e ∧ q e) args
  | [], _, _ => trivial
  | _ :: _, hp, hq => ⟨every_and hp.1 hq.1, everyArgument_and hp.2 hq.2⟩

end

mutual

theorem every_of_forall (h : ∀ e, p e) : (e : Expr) → e.Every p
  | absent | var .. | literal .. => h _
  | binary _ l r _ => ⟨h _, every_of_forall h l, every_of_forall h r⟩
  | unary _ e _ | assign _ e _ | group e _ => ⟨h _, every_of_forall h e⟩
  | call _ args _ => ⟨h _, everyArgument_of_forall h args⟩

theorem everyArgument_of_forall (h : ∀ e, p e) : (args : List Expr) → EveryArgument p args
  | [] => trivial
  | a :: rest => ⟨every_of_forall h a, everyArgument_of_forall h rest⟩

end

theorem everyArgument_iff {args : List Expr} : EveryArgument p args ↔ ∀ a ∈ args, a.Every p := by
  induction args with
  | nil => exact iff_of_true trivial nofun
  | cons a rest ih => rw [List.forall_mem_cons, EveryArgument, ih]

/-- A property that does not look at notes. -/
theorem every_withNote {note : Option Note} (hp : ∀ e, p (e.withNote note) ↔ p e) {e : Expr} :
    (e.withNote note).Every p ↔ e.Every p := by
  have h := hp e
  cases e with
  | absent | literal | var => exact h
  | binary | unary | call | assign | group => exact and_congr_left' h

end Expr

/-- Trees with `p` inside give values with `V` in scopes with `P`, and keep `P`. -/
structure Stable (p : Expr → Prop) (V : Value → Prop) (P : Scope → Prop) : Prop where
  literal : ∀ {v fallback note}, p (.literal v fallback note) →
    ∀ {a}, Expr.literalValue v fallback = .ok a → V a
  var : ∀ {s name a}, P s → Expr.variableValue s name = .ok a → V a
  unary : ∀ {op a b}, V a → Expr.unaryValue op a = .ok b → V b
  binary : ∀ {o : BinaryOp} {a b c}, V a → V b → o.combine a b = .ok c → V c
  call : ∀ {s dotted f args a}, P s → Expr.target s dotted = .ok f → (∀ b ∈ args, V b) →
    Expr.callValue dotted f args = .ok a → V a
  bind : ∀ {name e note}, p (.assign name e note) → ∀ {s a s'}, P s → V a →
    Expr.bind name a s = .ok s' → P s'

namespace Stable

open TokenFormula.Expr

variable {p : Expr → Prop} {V : Value → Prop} {P : Scope → Prop}

mutual

/-- The invariant along an evaluation. -/
theorem evaluate (h : Stable p V P) : (e : Expr) → e.Every p → (s : Scope) → P s →
    Meets V P (e.evaluate s)
  | .absent, _, s, hs => by
    rw [evaluate_absent]
    exact .error hs
  | .literal v fallback note, he, s, hs => by
    rw [evaluate_literal]
    exact .of_result (fun a ha => h.literal he ha) hs
  | .var name note, _, s, hs => by
    rw [evaluate_var]
    exact .of_result (fun a ha => h.var hs ha) hs
  | .group body note, he, s, hs => by
    rw [evaluate_group]
    exact h.evaluate body he.2 s hs
  | .unary op e note, he, s, hs => by
    cases hc : e.isAbsent || !op.isTruthy with
    | true =>
      rw [evaluate_unary_incomplete note s hc]
      exact .error hs
    | false =>
      rw [evaluate_unary note s hc]
      exact (h.evaluate e he.2 s hs).andThen fun a s₁ _ ha hs₁ =>
        .of_result (fun b hb => h.unary ha hb) hs₁
  | .binary op l r note, he, s, hs => by
    cases hc : l.isAbsent || r.isAbsent || !op.isTruthy with
    | true =>
      rw [evaluate_binary_incomplete note s hc]
      exact .error hs
    | false =>
      cases ho : operatorOf op with
      | error e =>
        rw [evaluate_binary_unknown note s hc ho]
        exact .error hs
      | ok o =>
        rw [evaluate_binary note s hc ho]
        refine (h.evaluate l he.2.1 s hs).andThen fun a s₁ _ ha hs₁ => ?_
        cases o.decides a with
        | true => exact .ok ha hs₁
        | false =>
          exact (h.evaluate r he.2.2 s₁ hs₁).andThen fun b s₂ _ hb hs₂ =>
            .of_result (fun c hc => h.binary ha hb hc) hs₂
  | .assign name e note, he, s, hs => by
    cases hn : name.isTruthy with
    | false =>
      rw [evaluate_assign_unnamed e note s hn]
      exact .error hs
    | true =>
      rw [evaluate_assign e note s hn]
      refine (h.evaluate e he.2 s hs).andThen fun a s₁ _ ha hs₁ => ?_
      cases hb : Expr.bind name a s₁ with
      | error e => exact .error hs₁
      | ok s₂ => exact .ok ha (h.bind he.1 hs₁ ha hb)
  | .call name args note, he, s, hs => by
    rw [evaluate_call]
    refine (Meets.of_result (V := fun _ => True) (fun _ _ => trivial) hs).andThen
      fun dotted s₁ hd _ hs₁ => ?_
    refine (Meets.of_result (V := fun f => Expr.target s₁ dotted = .ok f)
      (fun f hf => hf) hs₁).andThen fun f s₂ hf hft hs₂ => ?_
    obtain rfl := congrArg Prod.snd hf
    refine (h.evaluateArguments args he.2 s₁ hs₁).andThen fun vs s₃ _ hvs hs₃ => ?_
    exact .of_result (fun a ha => h.call hs₁ hft hvs ha) hs₃

/-- The invariant along an evaluation of arguments. -/
theorem evaluateArguments (h : Stable p V P) : (args : List Expr) → EveryArgument p args →
    (s : Scope) → P s → Meets (fun vs => ∀ v ∈ vs, V v) P (Expr.evaluateArguments args s)
  | [], _, s, hs => by
    rw [evaluateArguments_nil]
    exact .ok (fun v hv => by cases hv) hs
  | a :: rest, he, s, hs => by
    rw [evaluateArguments_cons]
    refine (h.evaluate a he.1 s hs).andThen fun v s₁ _ hv hs₁ => ?_
    refine (h.evaluateArguments rest he.2 s₁ hs₁).andThen fun vs s₂ _ hvs hs₂ => ?_
    refine .ok (fun w hw => ?_) hs₂
    obtain rfl | hw := List.mem_cons.mp hw
    · exact hv
    · exact hvs w hw

end

end Stable
end TokenFormula
