import TokenFormula.Proofs.Algorithm.Bindings
import TokenFormula.Proofs.Algorithm.Issues
import TokenFormula.Proofs.Algorithm.Trace
import TokenFormula.Proofs.Expr.Fold
import TokenFormula.Proofs.Expr.Visit

/-!
# Names that are reported as undefined

A name is reported as undefined if a formula or condition reads it and it is no
variable, not the iteration value, and assigned at the root of no formula. A run
binds it nowhere, unless it is the name of a table of functions or is assigned
elsewhere: inside a tree, or in a condition.

Results:
* `Scope.Free`: a name that is not bound and that no alias leads to.
* `scope_runStep`, `scope_of_runsTree`: what a step makes of the scope.
* `Arrives`: the scopes in which the steps of a run start.
* `undefined_unbound`: a reported name is bound at no step, and each evaluation of
  it fails.
* `not_undefined_unbound`: a reported name that a run reads.
-/

namespace TokenFormula

/-! ## Free names -/

namespace Scope

/-- The name is not bound, and it is no alias nor what one stands for. -/
structure Free (x : String) (s : Scope) : Prop where
  unreached : Unreached (fun _ => True) x s
  alias_eq : s.aliases.get? x = none

namespace Free

variable {s : Scope} {x key : String}

theorem empty (x : String) : Free x Scope.empty :=
  ⟨⟨rfl, nofun⟩, rfl⟩

/-- A free name cannot be read. -/
theorem has_eq (h : Free x s) : s.has x = false := by
  have hunbound : s.values.has x = false := h.unreached.1
  unfold Scope.has
  rw [(direct_of_no_alias h.alias_eq).get?]
  exact hunbound

theorem set (h : Free x s) (hne : key ≠ x) (v : Value) : Free x (s.set key v) :=
  ⟨h.unreached.set trivial hne v, h.alias_eq⟩

theorem setUnnamed (h : Free x s) (key v : Value) : Free x (s.setUnnamed key v) :=
  ⟨h.unreached, h.alias_eq⟩

theorem setAll (h : Free x s) {pairs : List (String × Value)} (hne : ∀ p ∈ pairs, p.1 ≠ x) :
    Free x (s.setAll pairs) := by
  induction pairs generalizing s with
  | nil => exact h
  | cons p rest ih =>
    rw [List.forall_mem_cons] at hne
    exact ih (h.set hne.1 p.2) hne.2

theorem addAlias (h : Free x s) {name : String} (hkey : key ≠ x) (hname : name ≠ x) :
    Free x (s.addAlias key name) :=
  ⟨h.unreached.addAlias hname, by rw [alias_addAlias_of_ne hkey.symm, h.alias_eq]⟩

/-- A declaration binds one of the names of its variable. -/
theorem declare (h : Free x s) {v : Variable} (hname : v.name ≠ x) (hid : v.id ≠ x) (w : Value) :
    Free x (s.declare v w) := by
  have hkey : (if v.name.isEmpty then v.id else v.name) ≠ x := by
    split
    · exact hid
    · exact hname
  unfold Scope.declare
  dsimp only
  split
  · exact h.set hkey w
  · exact (h.set hkey w).addAlias hid hname

end Free
end Scope

namespace Algorithm

open Scope

variable {a : Algorithm} {settings : Settings} {step : Step} {steps : List Step} {s s₀ : Scope}
  {e : Expr} {x : String}

/-- At the start of a run a name is free if it is no variable and none that every
    run binds. -/
theorem free_scope {iteration : Value} {modes : Modes}
    (hs : a.scope iteration [] modes = .ok s) (hname : ∀ v ∈ a.variables, v.name ≠ x)
    (hid : ∀ v ∈ a.variables, v.id ≠ x) (hn : iterationName ≠ x) (ht : isTableName x = false) :
    Free x s := by
  obtain ⟨d, hd, hs⟩ := bind_eq_ok hs
  obtain rfl := Except.ok.inj hs
  have hdeclared : Free x d :=
    declareAll_keeps hd (fun v hv t w ht => ht.declare (hname v hv) (hid v hv) w) (.empty x)
  refine (hdeclared.set hn iteration).setAll fun p hp => ?_
  rintro rfl
  rw [isTableName, (Entries.mem_keys_iff _ _).mp (List.mem_map_of_mem hp)] at ht
  cases ht

/-! ## Steps -/

/-- A step leaves the scope that the evaluation of its tree leaves. -/
theorem scope_of_target {t : Target} (ht : a.target settings step = .ok t) :
    (a.runStep settings step s).scope = (evaluateSourced t.tree s).2 := by
  rw [runStep, ht]
  dsimp only
  split
  · rename_i h
    rw [h]
  · rename_i h
    rw [h]
  · rename_i h
    rw [h]
    split <;> rfl

theorem scope_of_runsTree (he : a.RunsTree settings step e) :
    (a.runStep settings step s).scope = (e.evaluate s).2 := by
  obtain ⟨t, ht, htree⟩ := he
  rw [scope_of_target ht, htree, evaluateSourced_tree]

/-- A step leaves the scope, or it evaluates its tree and leaves the scope of that. -/
theorem scope_runStep (a : Algorithm) (settings : Settings) (step : Step) (s : Scope) :
    (a.runStep settings step s).scope = s ∨
      ∃ e, a.RunsTree settings step e ∧ (a.runStep settings step s).scope = (e.evaluate s).2 := by
  cases ht : a.target settings step with
  | error warning =>
    left
    rw [runStep, ht]
  | ok t =>
    match htree : t.tree with
    | .error f =>
      left
      rw [scope_of_target ht, htree]
      rfl
    | .ok (.error err) =>
      left
      rw [scope_of_target ht, htree]
      rfl
    | .ok (.ok e) => exact .inr ⟨e, ⟨t, ht, htree⟩, scope_of_runsTree ⟨t, ht, htree⟩⟩

theorem stable_free (x : String) :
    Stable (Expr.AssignsTo (· ≠ x)) (fun _ => True) (Free x) :=
  Expr.stable_assignsTo (fun v h hk => h.set hk v) fun key v h => h.setUnnamed key v

/-- A name that a tree does not assign stays free to the end of its evaluation and
    wherever this comes to. -/
theorem free_evaluate (he : x ∉ e.targets) (h : Free x s) :
    Free x (e.evaluate s).2 ∧ ∀ e' t, e.Visits s e' t → Free x t := by
  have hevery : e.Every (Expr.AssignsTo (· ≠ x)) :=
    Expr.every_assignsTo e fun key hkey hx => he (hx ▸ hkey)
  exact ⟨((stable_free x).evaluate e hevery s h).1,
    fun e' t hv => (stable_free x).visits hv hevery h⟩

/-- So it stays free in a step. -/
theorem free_runStep (hstep : ∀ e, a.RunsTree settings step e → x ∉ e.targets) (h : Free x s) :
    Free x (a.runStep settings step s).scope := by
  rcases scope_runStep a settings step s with hs | ⟨e, he, hs⟩
  · rw [hs]
    exact h
  · rw [hs]
    exact (free_evaluate (hstep e he) h).1

/-- And in steps one after the other. -/
theorem free_scopeAfter
    (hsteps : ∀ step ∈ steps, ∀ e, a.RunsTree settings step e → x ∉ e.targets) (h : Free x s) :
    Free x (a.scopeAfter settings steps s) := by
  induction steps generalizing s with
  | nil => exact h
  | cons step rest ih =>
    rw [List.forall_mem_cons] at hsteps
    exact ih hsteps.2 (free_runStep hsteps.1 h)

/-! ## Reported names -/

/-- Where a step evaluates a tree, the name is assigned in it at most at the root, and
    then as a formula. -/
def AssignsAtRoot (a : Algorithm) (settings : Settings) (x : String) : Prop :=
  ∀ step ∈ a.steps, ∀ e, a.RunsTree settings step e → x ∈ e.targets →
    step.type? = some .formula ∧ x ∈ rootOutputs e

/-- A reported name that is assigned at roots only is not assigned at all. -/
theorem not_mem_targets (hstored : a.NoStoredTree)
    (hreported : a.Reports settings.language .error x) (hassign : a.AssignsAtRoot settings x)
    (hstep : step ∈ a.steps) (he : a.RunsTree settings step e) : x ∉ e.targets := by
  intro hx
  obtain ⟨htype, hroot⟩ := hassign step hstep e he hx
  obtain ⟨node, hnode, -, -, -, houtputs⟩ := exists_node hstored he
  have hout : x ∈ node.outputs := by
    rw [(houtputs htype).2]
    exact hroot
  exact (reports_error_iff.mp hreported).2.2.2 node hnode hout

/-! ## Runs -/

/-- The steps before a step have not failed in a run from `s₀`, and the step starts in
    the scope `s`. -/
def Arrives (a : Algorithm) (settings : Settings) (s₀ : Scope) (step : Step) (s : Scope) : Prop :=
  ∃ before after p warnings, a.steps = before ++ step :: after ∧
    a.runSteps settings before ⟨[], .null⟩ s₀ = ⟨.ok p, s, warnings⟩

/-- A name is reported as undefined that names no table of functions and is assigned
    at the roots of formulas only, if at all. In every run without values of the caller
    it is bound at no step: neither before nor after the step, nor at any evaluation
    inside it. So evaluating the variable fails there. -/
theorem undefined_unbound {iteration : Value} {modes : Modes} (hstored : a.NoStoredTree)
    (hreported : a.Reports settings.language .error x) (htable : isTableName x = false)
    (hassign : a.AssignsAtRoot settings x) (hs : a.scope iteration [] modes = .ok s₀) :
    ∀ step s, a.Arrives settings s₀ step s →
      s.has x = false ∧ (a.runStep settings step s).scope.has x = false ∧
      ∀ e, a.RunsTree settings step e → ∀ e' t, e.Visits s e' t →
        t.has x = false ∧ ∀ note,
          (Expr.var (.text x) note).evaluate t = (.error (.undefined x), t) := by
  rintro step s ⟨before, after, p, warnings, hsteps, hrun⟩
  obtain ⟨⟨node, hnode, hinput⟩, hvariables, hn, -⟩ := reports_error_iff.mp hreported
  have hx : x.isEmpty = false := by
    obtain ⟨source, hsource⟩ := exists_source hnode
    exact isEmpty_of_mem_inputs (hsource ▸ hinput)
  have htargets : ∀ step ∈ a.steps, ∀ e, a.RunsTree settings step e → x ∉ e.targets :=
    fun step hstep e he => not_mem_targets hstored hreported hassign hstep he
  rw [hsteps, List.forall_mem_append, List.forall_mem_cons] at htargets
  have hstart : Free x s₀ := free_scope hs (fun v hv => (hvariables v hv).1)
    (fun v hv => (hvariables v hv).2) hn.symm htable
  have hfree : Free x s := by
    have hscope : s = a.scopeAfter settings before s₀ := by
      rw [← scope_of_runSteps_ok (congrArg StepResult.outcome hrun), hrun]
    rw [hscope]
    exact free_scopeAfter htargets.1 hstart
  refine ⟨hfree.has_eq, (free_runStep htargets.2.1 hfree).has_eq, fun e he e' t hv => ?_⟩
  have ht : Free x t := (free_evaluate (htargets.2.1 e he) hfree).2 e' t hv
  refine ⟨ht.has_eq, fun note => ?_⟩
  have hnone : t.get? x = none := by
    have hhas := ht.has_eq
    simpa [Scope.has] using hhas
  rw [Expr.evaluate_var, Expr.variableValue, if_neg (by simp [Value.isTruthy, hx])]
  rw [hnone]

/-- The first formula assigns `y`, and `z` inside; the second reads `ghost`. -/
def readsGhost : Algorithm :=
  ofTexts "dimension" [⟨"v1", "base", some .boolean, .bool true, none, false, none, none⟩]
    [("F1", "y = (z = base)"), ("F2", "y + ghost")]

/-- The scope of its runs for zero, with more bindings. -/
def ghostScope (more : Entries Value) : Scope where
  values := ("base", .bool true) :: (iterationName, .num (.int 0)) :: tables ++ more
  aliases := [("v1", "base")]
  unnamed := []

set_option maxRecDepth 10000 in
/-- The evaluation of `ghost` fails in the scope that the first formula has left. -/
theorem undefined_unbound_ghost :
    readsGhost.Reports Settings.default.language .error "ghost" ∧
    ∃ s, readsGhost.Arrives Settings.default (ghostScope []) ⟨some .formula, "F2", "F2"⟩ s ∧
      s.get? "z" = some (.bool true) ∧ s.has "ghost" = false ∧
      ∃ e, readsGhost.RunsTree Settings.default ⟨some .formula, "F2", "F2"⟩ e ∧
        e.Visits s (.var (.text "ghost") none) s ∧
        (Expr.var (.text "ghost") none).evaluate s = (.error (.undefined "ghost"), s) := by
  have hstored : readsGhost.NoStoredTree := by
    unfold NoStoredTree
    decide
  have hreported : readsGhost.Reports Settings.default.language .error "ghost" := by
    unfold Reports
    decide
  obtain ⟨note, hfirst⟩ : ∃ note, readsGhost.RunsTree Settings.default
      ⟨some .formula, "F1", "F1"⟩ (.assign (.text "y")
        (.group (.assign (.text "z") (.var (.text "base") none) none) none) note) :=
    ⟨_, _, rfl, rfl⟩
  obtain ⟨note', hsecond⟩ : ∃ note, readsGhost.RunsTree Settings.default
      ⟨some .formula, "F2", "F2"⟩
      (.binary (.text "+") (.var (.text "y") none) (.var (.text "ghost") none) note) :=
    ⟨_, _, rfl, rfl⟩
  have hassign : readsGhost.AssignsAtRoot Settings.default "ghost" := by
    intro step hstep e he hx
    have hne : "ghost" ∉ ["y", "z"] := by decide
    rcases List.mem_cons.mp hstep with rfl | hstep
    · rw [runsTree_unique hfirst he] at hx
      exact absurd hx hne
    · rw [List.mem_singleton.mp hstep] at he
      rw [runsTree_unique hsecond he] at hx
      cases hx
  have hs : readsGhost.scope (.num (.int 0)) [] [] = .ok (ghostScope []) := rfl
  have harrives : readsGhost.Arrives Settings.default (ghostScope []) ⟨some .formula, "F2", "F2"⟩
      (ghostScope [("z", .bool true), ("y", .bool true)]) :=
    ⟨[⟨some .formula, "F1", "F1"⟩], [], _, _, rfl, rfl⟩
  obtain ⟨hhas, -, hvisits⟩ :=
    undefined_unbound hstored hreported (by decide) hassign hs _ _ harrives
  have hv : Expr.Visits
      (.binary (.text "+") (.var (.text "y") none) (.var (.text "ghost") none) note')
      (ghostScope [("z", .bool true), ("y", .bool true)]) (.var (.text "ghost") none) _ :=
    .right note' rfl rfl rfl rfl (.here ..)
  exact ⟨hreported, _, harrives, rfl, hhas, _, hsecond, hv, (hvisits _ hsecond _ _ hv).2 none⟩

/-- The first formula assigns `x` in parentheses, and the second reads it. -/
def readsParenthesized : Algorithm :=
  ofTexts "dimension" [] [("F1", "(x = 5)"), ("F2", "x")]

set_option maxRecDepth 10000 in
/-- A run reads the value of a name that is reported as undefined. -/
theorem not_undefined_unbound :
    readsParenthesized.NoStoredTree ∧
      readsParenthesized.Reports Settings.default.language .error "x" ∧
      (∃ s₀ s, readsParenthesized.scope (.num (.int 0)) [] [] = .ok s₀ ∧
        readsParenthesized.Arrives Settings.default s₀ ⟨some .formula, "F2", "F2"⟩ s ∧
        s.has "x" = true) ∧
      ∃ r, (readsParenthesized.run Settings.default (.num (.int 0)) [] []).1 = .ok r ∧
        r.final.identical (.num (.int 5)) = true := by
  refine ⟨?_, ?_, ⟨_, _, rfl, ⟨[⟨some .formula, "F1", "F1"⟩], [], _, _, rfl, rfl⟩, rfl⟩, ?_⟩
  · unfold NoStoredTree
    decide
  · unfold Reports
    decide
  · have hfinal : (readsParenthesized.run Settings.default (.num (.int 0)) [] []).1.toOption.map
        (·.final.identical (.num (.int 5))) = some true := by decide +kernel
    cases hrun : (readsParenthesized.run Settings.default (.num (.int 0)) [] []).1 with
    | error e =>
      rw [hrun] at hfinal
      cases hfinal
    | ok r =>
      rw [hrun] at hfinal
      exact ⟨r, rfl, Option.some.inj hfinal⟩

end Algorithm
end TokenFormula
