import TokenFormula.Expr.Basic

/-!
# Complexity

A tree scores one per node and two more per call.

Results:
* `Expr.score`: the score of a tree.
* `Tier.ofScore`: the tier of a score.
-/

namespace TokenFormula

namespace Expr

/-- What a call costs beyond its node. -/
def callSurcharge : Nat := 2

mutual

/-- The score of a tree: one per node and two more per call. -/
def score : Expr → Nat
  | absent => 0
  | var .. | literal .. => 1
  | binary _ a b _ => 1 + a.score + b.score
  | unary _ a _ | assign _ a _ | group a _ => 1 + a.score
  | call _ args _ => 1 + callSurcharge + argumentScore args

/-- The score of an argument list. -/
def argumentScore : List Expr → Nat
  | [] => 0
  | a :: rest => a.score + argumentScore rest

end

end Expr

/-- The tiers of complexity. -/
inductive Tier where
  | low | medium | high
deriving DecidableEq, Repr

/-- The name of a tier. -/
def Tier.name : Tier → String
  | low => "low"
  | medium => "medium"
  | high => "high"

/-- The tier of a score: low up to three, medium up to eight. -/
def Tier.ofScore (score : Int) : Tier :=
  if score ≤ 3 then .low else if score ≤ 8 then .medium else .high

/-- The tier of a tree. -/
def Expr.tier (e : Expr) : Tier :=
  .ofScore e.score

end TokenFormula
