import TokenFormula.Proofs.Expr.Outcome

/-!
# The evaluations inside an evaluation

The evaluation of a tree evaluates the trees inside it, each in the scope that was
left up to there. The second operand of a connective and the arguments of a call
are evaluated only where the ones before them have values.

Results:
* `Expr.Visits`: the trees that an evaluation evaluates, each with its scope.
* `Every.of_visits`: what they have of the tree.
* `Stable.visits`: an invariant of scopes holds wherever an evaluation comes to.
-/

namespace TokenFormula
namespace Expr

/-- The evaluation of a tree in a scope evaluates another tree in a scope. -/
inductive Visits : Expr → Scope → Expr → Scope → Prop
  | here (e : Expr) (s : Scope) : Visits e s e s
  | group {body e : Expr} {s t : Scope} (note : Option Note) (h : Visits body s e t) :
    Visits (group body note) s e t
  | operand {op : Value} {operand e : Expr} {s t : Scope} (note : Option Note)
    (hc : (operand.isAbsent || !op.isTruthy) = false) (h : Visits operand s e t) :
    Visits (unary op operand note) s e t
  | left {op : Value} {o : BinaryOp} {l r e : Expr} {s t : Scope} (note : Option Note)
    (hc : (l.isAbsent || r.isAbsent || !op.isTruthy) = false) (ho : operatorOf op = .ok o)
    (h : Visits l s e t) : Visits (binary op l r note) s e t
  | right {op : Value} {o : BinaryOp} {l r e : Expr} {s s₁ t : Scope} {v : Value}
    (note : Option Note) (hc : (l.isAbsent || r.isAbsent || !op.isTruthy) = false)
    (ho : operatorOf op = .ok o) (hl : l.evaluate s = (.ok v, s₁)) (hd : o.decides v = false)
    (h : Visits r s₁ e t) : Visits (binary op l r note) s e t
  | value {name : Value} {body e : Expr} {s t : Scope} (note : Option Note)
    (hn : name.isTruthy = true) (h : Visits body s e t) : Visits (assign name body note) s e t
  | argument {name f : Value} {dotted : String} {before after : List Expr} {arg e : Expr}
    {s s₁ t : Scope} {vs : List Value} (note : Option Note) (hn : calleeName name = .ok dotted)
    (hf : target s dotted = .ok f) (hb : evaluateArguments before s = (.ok vs, s₁))
    (h : Visits arg s₁ e t) : Visits (call name (before ++ arg :: after) note) s e t

theorem everyArgument_append {p : Expr → Prop} {args rest : List Expr} :
    EveryArgument p (args ++ rest) ↔ EveryArgument p args ∧ EveryArgument p rest := by
  induction args with
  | nil => exact ⟨fun h => ⟨trivial, h⟩, And.right⟩
  | cons a args ih =>
    rw [List.cons_append, EveryArgument, EveryArgument, ih, and_assoc]

/-- What every tree inside a tree has, the trees have to which its evaluation comes. -/
theorem Every.of_visits {p : Expr → Prop} {e e' : Expr} {s t : Scope} (he : e.Every p)
    (hv : e.Visits s e' t) : e'.Every p := by
  induction hv with
  | here => exact he
  | group _ _ ih | operand _ _ _ ih | value _ _ _ ih => exact ih he.2
  | left _ _ _ _ ih => exact ih he.2.1
  | right _ _ _ _ _ _ ih => exact ih he.2.2
  | argument _ _ _ _ _ ih =>
    obtain ⟨-, harg, -⟩ := everyArgument_append.mp he.2
    exact ih harg

end Expr

open TokenFormula.Expr

namespace Stable

variable {p : Expr → Prop} {V : Value → Prop} {P : Scope → Prop} {e e' : Expr} {s t : Scope}

/-- What every write keeps holds wherever an evaluation comes to. -/
theorem visits (h : Stable p V P) (hv : Visits e s e' t) (he : e.Every p) (hs : P s) : P t := by
  induction hv with
  | here => exact hs
  | group _ _ ih | operand _ _ _ ih | value _ _ _ ih => exact ih he.2 hs
  | left _ _ _ _ ih => exact ih he.2.1 hs
  | @right _ _ l _ _ s _ _ _ _ _ _ hl _ _ ih =>
    have hleft := (h.evaluate l he.2.1 s hs).1
    rw [hl] at hleft
    exact ih he.2.2 hleft
  | @argument _ _ _ before _ _ _ s _ _ _ _ _ _ hb _ ih =>
    obtain ⟨hbefore, harg, -⟩ := everyArgument_append.mp he.2
    have hscope := (h.evaluateArguments before hbefore s hs).1
    rw [hb] at hscope
    exact ih harg hscope

end Stable
end TokenFormula
