import TokenFormula.Proofs.Expr.Parse
import TokenFormula.Proofs.Expr.Reduce

/-!
# Optimization and evaluation

The rounds of the optimizer keep the result of a formula text and the scope that
it leaves, as long as every operation that a round drops or joins has operands
on which the rule agrees with the evaluator.

Results:
* `RegularRounds`: the condition on all rounds.
* `optimize_evaluate`: the optimized tree gives the result of the tree.
* `not_optimize_evaluate`: it does not always.
-/

namespace TokenFormula.Expr

open Outcome

/-! ## Notes -/

theorem evaluate_withNote (e : Expr) (note : Option Note) (s : Scope) :
    (e.withNote note).evaluate s = e.evaluate s := by
  cases e <;> simp only [withNote, evaluate, eval]

/-! ## Rounds -/

theorem optimize_literalNative {e : Expr} (maxRounds : Int) (he : e.Every LiteralNative) :
    (e.optimize maxRounds).Every LiteralNative :=
  every_optimize keptByRules_literalNative.every_round literalNative_withNote maxRounds he

/-- In every round, dropping and joining meet operands along the evaluation on
    which their rules agree with the evaluator. -/
def RegularRounds : Nat → Expr → Scope → Prop
  | 0, _, _ => True
  | n + 1, e, s => ∀ e₁, e.foldConstants = .ok e₁ →
    e₁.Along DropCondition s ∧ e₁.dropRedundant.Along JoinsSafely s ∧
      (e₁.dropRedundant.joinTerms.same e = true ∨
        RegularRounds n e₁.dropRedundant.joinTerms s)

/-- The condition on all rounds of an optimization. -/
def RegularFor (maxRounds : Int) (e : Expr) (s : Scope) : Prop :=
  RegularRounds (max 1 maxRounds).toNat (e.withNote none) s

theorem foldConstants_follows_native {e e₁ : Expr} (he : e.Every LiteralNative)
    (h : e.foldConstants = .ok e₁) {s : Scope} (hs : s.Native) :
    Follows True (e.evaluate s) (e₁.evaluate s) :=
  foldConstants_follows stable_native (fun _ => findsFunctions_of_native) e he e₁ h s hs

theorem rounds_follows (n : Nat) : ∀ {e r : Expr}, e.Every LiteralNative → rounds n e = .ok r →
    ∀ {s : Scope}, s.Native → RegularRounds n e s → Follows True (e.evaluate s) (r.evaluate s) := by
  induction n with
  | zero =>
    intro e r _ h s _ _
    rw [← Except.ok.inj h]
    exact .refl _
  | succ n ih =>
    intro e r he h s hs hc
    obtain ⟨e', hround, ⟨-, rfl⟩ | ⟨hsame, h⟩⟩ := rounds_succ_cases h
    · exact .refl _
    · obtain ⟨e₁, h₁, rfl⟩ := exists_of_round hround
      obtain ⟨hd, hj, hn⟩ := hc e₁ h₁
      have he₁ := every_foldConstants keptByFolding_literalNative e he e₁ h₁
      have he₂ := dropRedundant_literalNative he₁
      have hfold := foldConstants_follows_native he h₁ hs
      have hdrop := dropRedundant_follows e₁ he₁ s hd
      have hjoin := joinTerms_follows e₁.dropRedundant s hj
      obtain hn | hn := hn
      · exact absurd hn (Bool.eq_false_iff.mp hsame)
      · exact ((hfold.trans hdrop).trans hjoin).trans
          (ih (joinTerms_literalNative he₂) h hs hn)

/-- The optimized tree of a formula text gives its result and leaves the same
    scope, where the rules agree with the evaluator in all rounds. -/
theorem optimize_evaluate (source : String) (maxRounds : Int) {s S : Scope} {v : Value}
    (hs : s.Native) (hc : (parse source).RegularFor maxRounds s)
    (h : (parse source).evaluate s = (.ok v, S)) :
    ((parse source).optimize maxRounds).evaluate s = (.ok v, S) := by
  unfold optimize
  split
  · rename_i r hr
    obtain ⟨e, he, hr⟩ := bind_eq_ok hr
    rw [← Except.ok.inj hr, renote, evaluate_withNote]
    have hlit : ((parse source).withNote none).Every LiteralNative :=
      (every_withNote literalNative_withNote).mpr (literalNative_parse source)
    have hf := rounds_follows _ hlit he hs hc
    rw [evaluate_withNote] at hf
    exact hf.ok h
  · exact h

theorem native_withTables : Scope.empty.withTables.Native := by
  have h : Scope.empty.Native := fun name v hv => by cases hv
  exact (h.set "Math" (v := .dict mathTable) (.inl rfl)).set "Array" (v := .dict arrayTable)
    (.inr rfl)

theorem optimize_evaluate_plus_zero :
    (Scope.empty.withTables.set "x" (.num (.int 3))).Native ∧
    (parse "x + 0").RegularFor 8 (Scope.empty.withTables.set "x" (.num (.int 3))) ∧
    ((parse "x + 0").optimize 8).evaluate (Scope.empty.withTables.set "x" (.num (.int 3))) =
      (.ok (.num (.int 3)), Scope.empty.withTables.set "x" (.num (.int 3))) := by
  have hs := native_withTables.set "x" (v := .num (.int 3)) trivial
  have hx : (var (.text "x") none).GivesNormal
      (Scope.empty.withTables.set "x" (.num (.int 3))) := by
    intro v s' h
    obtain rfl := Except.ok.inj (congrArg Prod.fst h)
    rfl
  have hc : (parse "x + 0").RegularFor 8 (Scope.empty.withTables.set "x" (.num (.int 3))) := by
    intro e₁ h₁
    obtain rfl := Except.ok.inj h₁
    refine ⟨⟨⟨fun _ _ => hx, fun h => by cases h⟩, trivial, fun _ _ _ _ _ _ => trivial⟩,
      trivial, .inr ?_⟩
    intro e₂ h₂
    obtain rfl := Except.ok.inj h₂
    exact ⟨trivial, trivial, .inl rfl⟩
  exact ⟨hs, hc, optimize_evaluate "x + 0" 8 hs hc rfl⟩

/-- The note at the root does not matter to the passes. -/
theorem optimize_withNote (e : Expr) (maxRounds : Int) :
    ((e.withNote none).optimize maxRounds).withNote none =
      (e.optimize maxRounds).withNote none := by
  have htwice (e : Expr) (note : Option Note) : (e.withNote note).withNote none =
      e.withNote none := by
    cases e <;> rfl
  unfold optimize optimize?
  rw [htwice]
  cases rounds (max 1 maxRounds).toNat (e.withNote none) with
  | ok r =>
    show (r.renote _).withNote none = (r.renote _).withNote none
    rw [renote, renote, htwice, htwice]
  | error f => exact htwice e none

/-- The tree of `('a' + 'b')`. -/
def joinedTexts : Expr :=
  group (binary (.text "+") (literal (some (.text "a")) false none)
    (literal (some (.text "b")) false none) none) none

theorem evaluate_joinedTexts (s : Scope) : joinedTexts.evaluate s = (.ok (.text "ab"), s) := by
  rw [joinedTexts, evaluate_group, evaluate_binary none s rfl rfl, evaluate_literal]
  rfl

/-- Two texts that are joined in parentheses are no literal, so a zero after them
    is dropped; the evaluator appends it. -/
theorem not_optimize_evaluate :
    (parse "('a' + 'b') + 0").notedErrors = [] ∧
    (parse "('a' + 'b') + 0").evaluate Scope.empty.withTables =
      (.ok (.text "ab0"), Scope.empty.withTables) ∧
    ((parse "('a' + 'b') + 0").optimize 8).evaluate Scope.empty.withTables =
      (.ok (.text "ab"), Scope.empty.withTables) := by
  have hplain : (parse "('a' + 'b') + 0").withNote none =
      binary (.text "+") joinedTexts (number (.int 0)) none := rfl
  have hoptimized : ((binary (.text "+") joinedTexts (number (.int 0)) none).optimize 8).withNote
      none = joinedTexts := rfl
  refine ⟨rfl, ?_, ?_⟩
  · rw [← evaluate_withNote _ none, hplain, number,
      evaluate_binary_number_right rfl rfl (fun _ => rfl) rfl, evaluate_joinedTexts, andThen_ok,
      BinaryOp.combine_text_zero]
    rfl
  · rw [← evaluate_withNote _ none, ← optimize_withNote, hplain, hoptimized,
      evaluate_joinedTexts]

end TokenFormula.Expr
