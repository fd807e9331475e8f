import TokenFormula.Proofs.Expr.Settle

/-!
# The passes converge

A pass that changes a tree takes nodes away, or keeps their number and takes
variables away. A tree cannot lose nodes and variables more often than it has
nodes, twice over, and its height is below the number of its nodes. So that many
rounds leave a tree that no pass changes.

Results:
* `Precedes`: fewer nodes, or as many nodes and fewer variables.
* `precedes_of_apply`: what a pass changes precedes what it was.
* `height_le_nodeCount`: a tree has at least as many nodes as levels.
* `optimize_converges`: both statements about a whole optimization.
-/

namespace TokenFormula.Expr

/-- The tree has fewer nodes, or as many nodes and fewer variables. -/
def Precedes (e' e : Expr) : Prop :=
  Prod.Lex (· < ·) (· < ·) (e'.nodeCount, e'.variableCount) (e.nodeCount, e.variableCount)

theorem Lighter.precedes {e' e : Expr} (h : e'.Lighter e) : e'.Precedes e := by
  unfold Precedes
  obtain ⟨-, hn⟩ | ⟨-, hn, hv⟩ := h
  · exact .left _ _ hn
  · rw [hn]
    exact .right _ hv

/-- What a pass changes precedes what it was. -/
theorem precedes_of_apply (p : Pass) {e e' : Expr} (h : p.apply e = .ok e') (hne : e' ≠ e) :
    e'.Precedes e := by
  obtain heq | hlighter := apply_shrinks p h
  · exact absurd heq hne
  · exact hlighter.precedes

mutual

/-- A tree has at least as many nodes as levels. -/
theorem height_le_nodeCount : (e : Expr) → e.height ≤ e.nodeCount
  | absent | var .. | literal .. => Nat.zero_le _
  | group e _ | assign _ e _ | unary _ e _ => Nat.succ_le_succ (height_le_nodeCount e)
  | binary _ l r _ => by
    have hl := height_le_nodeCount l
    have hr := height_le_nodeCount r
    rw [height, nodeCount]
    omega
  | call _ args _ => Nat.succ_le_succ (argumentHeight_le_nodeCount args)

theorem argumentHeight_le_nodeCount : (args : List Expr) →
    argumentHeight args ≤ argumentNodeCount args
  | [] => Nat.zero_le _
  | a :: rest => by
    have ha := height_le_nodeCount a
    have hr := argumentHeight_le_nodeCount rest
    rw [argumentHeight, argumentNodeCount]
    omega

end

/-- With two rounds for each node, optimizing ends with a tree that no pass changes. -/
theorem still_of_optimize? {e r : Expr} {maxRounds : Int} (hmax : 2 * e.nodeCount ≤ maxRounds)
    (h : e.optimize? maxRounds = .ok r) : r.Still := by
  obtain ⟨r', hrounds, h⟩ := bind_eq_ok h
  obtain rfl := Except.ok.inj h
  have hheight := height_le_nodeCount e
  have hwork := work_le_height .fold (e.withNote none)
  rw [height_withNote] at hwork
  exact (rounds_still _ hrounds (by omega)).withNote _

/-- Whatever a pass changes becomes smaller in the number of its nodes or, with as
    many nodes, of its variables. Where no pass fails, two rounds for each node give
    a tree that none of the passes changes. -/
theorem optimize_converges :
    (∀ (p : Pass) (e e' : Expr), p.apply e = .ok e' → e' ≠ e → e'.Precedes e) ∧
      ∀ (e r : Expr) (maxRounds : Int), 2 * e.nodeCount ≤ maxRounds →
        e.optimize? maxRounds = .ok r → e.optimize maxRounds = r ∧ r.Still := by
  refine ⟨fun p e e' h hne => precedes_of_apply p h hne, fun e r maxRounds hmax h => ⟨?_, ?_⟩⟩
  · rw [optimize, h]
  · exact still_of_optimize? hmax h

/-- A doubled variable in parentheses, and nothing added to it. -/
def paddedDouble : Expr :=
  let x := var (.text "x") none
  binary (.text "+") (group (binary (.text "+") x x none) none) (number (.int 0)) none

/-- The six nodes become four, the two variables one, and then no pass changes the tree. -/
theorem optimize_converges_paddedDouble :
    paddedDouble.nodeCount = 6 ∧ paddedDouble.dropRedundant.Precedes paddedDouble ∧
      paddedDouble.dropRedundant.joinTerms.Precedes paddedDouble.dropRedundant ∧
      (paddedDouble.optimize 12).nodeCount = 4 ∧ (paddedDouble.optimize 12).Still := by
  obtain ⟨hpass, hresult⟩ := optimize_converges
  have hdrop : paddedDouble.dropRedundant ≠ paddedDouble := by
    intro h
    exact absurd (congrArg nodeCount h) (by decide)
  have hjoin : paddedDouble.dropRedundant.joinTerms ≠ paddedDouble.dropRedundant := by
    intro h
    exact absurd (congrArg variableCount h) (by decide)
  obtain ⟨heq, hstill⟩ := hresult paddedDouble _ 12 (by decide) rfl
  exact ⟨rfl, hpass .drop _ _ rfl hdrop, hpass .join _ _ rfl hjoin, rfl, heq ▸ hstill⟩

end TokenFormula.Expr
