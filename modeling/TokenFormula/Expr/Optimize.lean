import TokenFormula.Expr.Complexity
import TokenFormula.Expr.Fold
import TokenFormula.Expr.Reduce

/-!
# Optimization

The three passes run in a fixed order until the tree no longer changes or the
rounds are used up. Where a pass fails, the tree stays as it was.

Results:
* `Expr.round`: one round of the three passes.
* `Expr.optimize?`: the optimized tree, or why a pass failed.
* `Expr.optimize`: the optimized tree, or the tree itself.
-/

namespace TokenFormula

/-- The passes of the optimizer. -/
inductive Pass where
  | fold | drop | join
deriving DecidableEq, Repr

/-- One pass over a tree. -/
def Pass.apply : Pass → Expr → Except Fault Expr
  | fold, e => e.foldConstants
  | drop, e => .ok e.dropRedundant
  | join, e => .ok e.joinTerms

namespace Expr

/-- One round: folding, dropping, joining. -/
def round (e : Expr) : Except Fault Expr := do
  let folded ← e.foldConstants
  return folded.dropRedundant.joinTerms

/-- Rounds until one changes nothing; at most the given number. -/
def rounds : Nat → Expr → Except Fault Expr
  | 0, e => .ok e
  | n + 1, e => do
    let e' ← e.round
    if e'.same e then return e else rounds n e'

/-- The note of a tree that has been optimized: the tier is that of the result. -/
def renote (note : Option Note) (e : Expr) : Expr :=
  e.withNote (note.map fun n => { n with complexity := .text e.tier.name })

/-- The optimized tree, or why a pass failed. There is always one round. -/
def optimize? (maxRounds : Int) (e : Expr) : Except Fault Expr := do
  let result ← rounds (max 1 maxRounds).toNat (e.withNote none)
  return result.renote e.note?

/-- The optimized tree, or the tree itself where a pass failed. -/
def optimize (maxRounds : Int) (e : Expr) : Expr :=
  match e.optimize? maxRounds with
  | .ok r => r
  | .error _ => e

end Expr
end TokenFormula
