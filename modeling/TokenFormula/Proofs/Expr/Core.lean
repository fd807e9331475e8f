import TokenFormula.Proofs.Expr.Printable
import TokenFormula.Proofs.Expr.Reduce

/-!
# Trees without parentheses

Two texts can differ in parentheses and still mean the same. The core of a tree
leaves out its notes and parentheses, and takes a negative number for the sign
of its negative, as the grammar has no negative numerals.

Results:
* `core`: the tree that is left.
* `evaluate_core`: a tree without missing parts gives what its core gives.
-/

namespace TokenFormula.Expr

open Outcome

/-- A literal; a negative number as a sign before its negative. -/
def coreLiteral : Option Value → Bool → Expr
  | some (.num n), false =>
    if n.isNegative then unary (.text "-") (number n.negate) none else number n
  | v, fallback => literal v fallback none

mutual

/-- The tree without notes and parentheses, and without negative numbers. -/
def core : Expr → Expr
  | absent => absent
  | binary op l r _ => binary op l.core r.core none
  | unary op e _ => unary op e.core none
  | var name _ => var name none
  | literal v fallback _ => coreLiteral v fallback
  | call name args _ => call name (coreArguments args) none
  | assign name e _ => assign name e.core none
  | group e _ => e.core

/-- The cores of arguments. -/
def coreArguments : List Expr → List Expr
  | [] => []
  | a :: rest => a.core :: coreArguments rest

end

theorem coreLiteral_number (n : Number) : coreLiteral (some (.num n)) false =
    if n.isNegative then unary (.text "-") (number n.negate) none else number n := rfl

/-- The core of the negative of a negative number is a numeral. -/
theorem core_negate {n : Number} (h : n.isNegative = true) (hneg : n.negate.isNegative = false)
    (note : Option Note) :
    (unary (.text "-") (number n.negate) note).core = (number n).core := by
  show unary (.text "-") (coreLiteral (some (.num n.negate)) false) none =
    coreLiteral (some (.num n)) false
  rw [coreLiteral_number, coreLiteral_number, h, hneg]
  rfl

theorem core_withNote (e : Expr) (note : Option Note) : (e.withNote note).core = e.core := by
  cases e <;> rfl

/-! ## Evaluation -/

theorem coreLiteral_isAbsent (v : Option Value) (fallback : Bool) :
    (coreLiteral v fallback).isAbsent = false := by
  unfold coreLiteral
  split
  · split <;> rfl
  · rfl

theorem core_isAbsent : (e : Expr) → e.Every Complete → e.core.isAbsent = false
  | absent, he => he.1
  | binary .., _ | unary .., _ | var .., _ | call .., _ | assign .., _ => rfl
  | literal v fallback _, _ => coreLiteral_isAbsent v fallback
  | group e _, he => core_isAbsent e he.2

theorem evaluate_coreLiteral {v : Option Value} {fallback : Bool} {note : Option Note}
    (h : LiteralNative (literal v fallback note)) (s : Scope) :
    (coreLiteral v fallback).evaluate s = (literal v fallback note).evaluate s := by
  unfold coreLiteral
  split
  · rename_i n
    split
    · have hn : n.isNormal = true := h
      rw [evaluate_neg none s rfl, evaluate_number, andThen_ok, evaluate_number_literal]
      show (Except.ok (Value.num n.negate.negate.normalize), s) = _
      rw [Number.negate_negate, (Number.normalize_eq_self_iff n).mpr hn]
    · rw [evaluate_number, evaluate_number_literal]
  · rw [evaluate_literal, evaluate_literal]

mutual

/-- A tree without missing parts gives what its core gives. -/
theorem core_follows : (e : Expr) → e.Every Complete → ∀ s,
    Follows False (e.evaluate s) (e.core.evaluate s)
  | absent, _, _ => .refl _
  | literal .., he, s => .of_eq (evaluate_coreLiteral he.2 s)
  | var name note, _, s => .of_eq (by rw [core, evaluate_var, evaluate_var])
  | group e note, he, s => by
    rw [core, evaluate_group]
    exact core_follows e he.2 s
  | unary op e note, he, s =>
    follows_unary ((core_isAbsent e he.2).trans he.2.present.symm) (core_follows e he.2 s)
  | binary op l r note, he, s =>
    follows_binary ((core_isAbsent l he.2.1).trans he.2.1.present.symm)
      ((core_isAbsent r he.2.2).trans he.2.2.present.symm) (core_follows l he.2.1 s)
      fun _ _ s₁ _ _ _ => core_follows r he.2.2 s₁
  | assign name e note, he, s => follows_assign (core_follows e he.2 s)
  | call name args note, he, s => follows_call (coreArguments_follows args he.2 s)

theorem coreArguments_follows : (args : List Expr) → EveryArgument Complete args → ∀ s,
    Follows False (evaluateArguments args s) (evaluateArguments (coreArguments args) s)
  | [], _, _ => .refl _
  | a :: rest, he, s =>
    follows_cons (core_follows a he.1 s) fun _ s₁ _ => coreArguments_follows rest he.2 s₁

end

theorem evaluate_core {e : Expr} (he : e.Every Complete) (s : Scope) :
    e.core.evaluate s = e.evaluate s :=
  (core_follows e he s).eq

theorem complete_of_isWritten {v : Value} {note : Option Note} (h : IsWritten v) :
    Complete (literal (some v) false note) := by
  refine ⟨rfl, ?_⟩
  cases v with
  | num n => exact h.1
  | null | bool | text => trivial
  | list | dict | function => exact h.elim

/-- A tree that can be printed is complete. -/
theorem complete_of_printable {e : Expr} (he : e.Every Printable) : e.Every Complete := by
  refine every_mono (fun e h => ?_) e he
  cases e with
  | absent => exact h.elim
  | literal v fallback note =>
    obtain ⟨rfl, w, rfl, hw⟩ := h
    exact complete_of_isWritten hw
  | _ => exact ⟨rfl, trivial⟩

end TokenFormula.Expr
