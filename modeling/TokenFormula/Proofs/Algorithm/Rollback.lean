import TokenFormula.Proofs.Algorithm.Trace
import TokenFormula.Proofs.Expr.Keeps

/-!
# Steps that fail inside a trace

After a step that fails a trace goes on in the scope that the step left. That is
the scope before the step as long as the evaluation of its tree completed no
assignment that changed it; an assignment inside an operand may have done so
before a later operand failed.

Results:
* `scope_of_failed`: the scope after a step that fails.
* `trace_rollback`: a trace goes on as if the step were not there.
* `trace_rollback_of_writesLast`: so it does if the step assigns at its root only.
* `not_trace_rollback`: an assignment that survives the failure of its step.
-/

namespace TokenFormula.Algorithm

open StepResult

variable {a : Algorithm} {settings : Settings} {step : Step} {steps : List Step} {s : Scope}
  {i : Nat} {r : TraceStep}

/-! ## One step -/

/-- The tree that a step evaluates, if it comes to that, changes nothing in the
    scope by the assignments that it completes. -/
def StepKeepsScope (a : Algorithm) (settings : Settings) (step : Step) (s : Scope) : Prop :=
  ∀ t e, a.target settings step = .ok t → t.tree = .ok (.ok e) → e.KeepsScope s

/-- A step that fails has a target. -/
theorem exists_target_of_message (h : (a.runStep settings step s).message?.isSome = true) :
    ∃ t, a.target settings step = .ok t := by
  have hends := a.stepEnds settings step s
  generalize a.runStep settings step s = r at h hends
  cases hends with
  | skipped => cases h
  | finished ht | failed ht | escaped ht => exact ⟨_, ht⟩

/-- A step that fails leaves the scope if its tree does. -/
theorem scope_of_failed (h : (a.runStep settings step s).message?.isSome = true)
    (hkeeps : a.StepKeepsScope settings step s) : (a.runStep settings step s).scope = s := by
  have hends := a.stepEnds settings step s
  generalize a.runStep settings step s = r at h hends ⊢
  cases hends with
  | skipped => rfl
  | finished => cases h
  | escaped => cases h
  | failed ht he =>
    obtain ⟨hs, -⟩ | ⟨e, err, htree, heval, -⟩ := evaluateSourced_error he
    · exact hs
    · have hscope := Expr.evaluate_of_keepsScope e s (hkeeps _ e ht htree)
      rw [heval] at hscope
      exact hscope

/-- The tree of a step assigns at its root only. -/
def StepWritesLast (a : Algorithm) (settings : Settings) (step : Step) : Bool :=
  match a.target settings step with
  | .error _ => true
  | .ok t =>
    match t.tree with
    | .ok (.ok e) => e.WritesLast
    | _ => true

theorem stepKeepsScope_of_writesLast (h : (a.runStep settings step s).message?.isSome = true)
    (hw : a.StepWritesLast settings step = true) : a.StepKeepsScope settings step s := by
  intro t e ht htree
  unfold StepWritesLast at hw
  simp only [ht, htree] at hw
  have hends := a.stepEnds settings step s
  generalize a.runStep settings step s = r at h hends
  cases hends with
  | skipped => cases h
  | finished => cases h
  | escaped => cases h
  | failed ht' he =>
    rw [ht] at ht'
    cases ht'
    obtain ⟨-, hne⟩ | ⟨e', err, htree', heval, hown⟩ := evaluateSourced_error he
    · exact absurd htree (hne e)
    · rw [htree] at htree'
      cases htree'
      exact Expr.keepsScope_of_writesLast e hw heval hown

/-! ## Records without one step -/

theorem records_getElem? (steps : List Step) (s : Scope) (i : Nat) :
    (a.records settings steps s)[i]? =
      steps[i]?.map fun step => a.record settings step (a.scopeAfter settings (steps.take i) s) := by
  induction steps generalizing s i with
  | nil => simp
  | cons x rest ih =>
    cases i with
    | zero => simp
    | succ i => simp [ih]

theorem scopeAfter_take_succ (h : steps[i]? = some step) :
    a.scopeAfter settings (steps.take (i + 1)) s =
      (a.runStep settings step (a.scopeAfter settings (steps.take i) s)).scope := by
  rw [List.take_add_one, h, scopeAfter_append]
  rfl

/-- A list around the element at a place. -/
theorem take_append_cons_drop {α : Type} {l : List α} {x : α} (h : l[i]? = some x) :
    l.take i ++ x :: l.drop (i + 1) = l := by
  obtain ⟨hi, rfl⟩ := List.getElem?_eq_some_iff.mp h
  rw [← List.drop_eq_getElem_cons hi, List.take_append_drop]

/-- A step that leaves the scope can be taken out. -/
theorem records_eraseIdx (h : steps[i]? = some step)
    (hkeeps : (a.runStep settings step (a.scopeAfter settings (steps.take i) s)).scope =
      a.scopeAfter settings (steps.take i) s) :
    a.records settings (steps.eraseIdx i) s = (a.records settings steps s).eraseIdx i := by
  obtain ⟨hi, -⟩ := List.getElem?_eq_some_iff.mp h
  have hlength : (a.records settings (steps.take i) s).length = i := by
    rw [length_records, List.length_take, Nat.min_eq_left (Nat.le_of_lt hi)]
  rw [List.eraseIdx_eq_take_drop_succ, records_append]
  conv =>
    rhs
    rw [← take_append_cons_drop h, records_append, records_cons, hkeeps]
  rw [List.eraseIdx_append_of_length_le (Nat.le_of_eq hlength), hlength, Nat.sub_self,
    List.eraseIdx_cons_zero]

theorem eachSettles_eraseIdx (hsettles : a.EachSettles settings steps s)
    (h : steps[i]? = some step)
    (hkeeps : (a.runStep settings step (a.scopeAfter settings (steps.take i) s)).scope =
      a.scopeAfter settings (steps.take i) s) :
    a.EachSettles settings (steps.eraseIdx i) s := by
  rw [← take_append_cons_drop h, eachSettles_append] at hsettles
  obtain ⟨hbefore, -, hafter⟩ := hsettles
  rw [hkeeps] at hafter
  rw [List.eraseIdx_eq_take_drop_succ, eachSettles_append]
  exact ⟨hbefore, hafter⟩

theorem skipWarnings_eraseIdx (h : steps[i]? = some step) {t : Target}
    (ht : a.target settings step = .ok t) :
    a.skipWarnings settings (steps.eraseIdx i) = a.skipWarnings settings steps := by
  rw [List.eraseIdx_eq_take_drop_succ, skipWarnings_append]
  conv =>
    rhs
    rw [← take_append_cons_drop h, skipWarnings_append, ← List.singleton_append,
      skipWarnings_append, skipWarnings_of_target ht, List.nil_append]

/-- A record with an error does not count for the final value. -/
theorem finalFrom_eraseIdx {rs : List TraceStep} (h : rs[i]? = some r)
    (he : r.error?.isSome = true) (final : Value) :
    a.finalFrom final (rs.eraseIdx i) = a.finalFrom final rs := by
  have hran : a.ran r = false := by simp [ran, Option.isNone_eq_false_iff.mpr he]
  rw [List.eraseIdx_eq_take_drop_succ]
  conv =>
    rhs
    rw [← take_append_cons_drop h]
  simp [finalFrom, hran]

/-! ## Traces -/

/-- The algorithm with other steps. -/
def withSteps (a : Algorithm) (steps : List Step) : Algorithm :=
  { a with steps := steps }

theorem records_withSteps (l : List Step) :
    (a.withSteps l).records settings steps s = a.records settings steps s := by
  induction steps generalizing s with
  | nil => rfl
  | cons x rest ih => exact congrArg (a.record settings x s :: ·) ih

theorem eachSettles_withSteps (l : List Step) :
    (a.withSteps l).EachSettles settings steps s ↔ a.EachSettles settings steps s := by
  induction steps generalizing s with
  | nil => rfl
  | cons x rest ih => exact and_congr_right' ih

/-- Every record of a trace is that of the step at its place. -/
theorem exists_step_of_trace {iteration : Value} {context : Entries Value} {T : Trace}
    {warnings : List String} (hs : a.scope iteration context [] = .ok s)
    (hT : a.trace settings iteration context = (.ok T, warnings))
    (hr : T.steps[i]? = some r) :
    ∃ step, a.steps[i]? = some step ∧
      r = a.record settings step (a.scopeAfter settings (a.steps.take i) s) := by
  obtain ⟨s', hs', -, rfl, -⟩ := trace_eq_ok_iff.mp hT
  rw [hs] at hs'
  cases hs'
  rw [records_getElem?] at hr
  obtain ⟨step, hstep, rfl⟩ := Option.map_eq_some_iff.mp hr
  exact ⟨step, hstep, rfl⟩

/-- Without a step that failed and left the scope, the trace has all other records. -/
theorem trace_withoutStep {iteration : Value} {context : Entries Value} {T : Trace}
    {warnings : List String} (hs : a.scope iteration context [] = .ok s)
    (hT : a.trace settings iteration context = (.ok T, warnings))
    (hr : T.steps[i]? = some r) (he : r.error?.isSome = true)
    (hsame : a.scopeAfter settings (a.steps.take (i + 1)) s =
      a.scopeAfter settings (a.steps.take i) s) :
    (∀ next, T.steps[i + 1]? = some next → next.inputs = r.inputs) ∧
    ∃ T', (a.withSteps (a.steps.eraseIdx i)).trace settings iteration context =
        (.ok T', warnings) ∧
      T'.steps = T.steps.eraseIdx i ∧ T'.final = T.final := by
  obtain ⟨step, hstep, rfl⟩ := exists_step_of_trace hs hT hr
  obtain ⟨s', hs', hsettles, rfl, rfl⟩ := trace_eq_ok_iff.mp hT
  rw [hs] at hs'
  cases hs'
  have hscope := (scopeAfter_take_succ hstep).symm.trans hsame
  have hsteps := (records_withSteps (a.steps.eraseIdx i)).trans (records_eraseIdx hstep hscope)
  refine ⟨?_, _, trace_eq_ok_iff.mpr ⟨s, hs, ?_, rfl, ?_⟩, hsteps, ?_⟩
  · intro next hnext
    rw [records_getElem?, hsame] at hnext
    obtain ⟨step', -, rfl⟩ := Option.map_eq_some_iff.mp hnext
    rfl
  · exact (eachSettles_withSteps _).mpr (eachSettles_eraseIdx hsettles hstep hscope)
  · obtain ⟨t, ht⟩ := exists_target_of_message he
    exact (skipWarnings_eraseIdx hstep ht).symm
  · exact (congrArg (a.finalFrom .null) hsteps).trans (finalFrom_eraseIdx hr he .null)

/-- Where a step failed and its tree left the scope, the trace goes on in the
    scope before the step: the next record shows the same bindings, and without
    the step the trace has all other records, the same final value and the same
    warnings. -/
theorem trace_rollback {iteration : Value} {context : Entries Value} {T : Trace}
    {warnings : List String} (hs : a.scope iteration context [] = .ok s)
    (hT : a.trace settings iteration context = (.ok T, warnings))
    (hr : T.steps[i]? = some r) (he : r.error?.isSome = true)
    (hkeeps : a.StepKeepsScope settings r.step (a.scopeAfter settings (a.steps.take i) s)) :
    a.scopeAfter settings (a.steps.take (i + 1)) s = a.scopeAfter settings (a.steps.take i) s ∧
    (∀ next, T.steps[i + 1]? = some next → next.inputs = r.inputs) ∧
    ∃ T', (a.withSteps (a.steps.eraseIdx i)).trace settings iteration context =
        (.ok T', warnings) ∧
      T'.steps = T.steps.eraseIdx i ∧ T'.final = T.final := by
  obtain ⟨step, hstep, rfl⟩ := exists_step_of_trace hs hT hr
  have hsame := (scopeAfter_take_succ hstep).trans (scope_of_failed he hkeeps)
  exact ⟨hsame, trace_withoutStep hs hT hr he hsame⟩

/-- So it does where the tree of the step assigns at its root only. -/
theorem trace_rollback_of_writesLast {iteration : Value} {context : Entries Value} {T : Trace}
    {warnings : List String} (hs : a.scope iteration context [] = .ok s)
    (hT : a.trace settings iteration context = (.ok T, warnings))
    (hr : T.steps[i]? = some r) (he : r.error?.isSome = true)
    (hw : a.StepWritesLast settings r.step = true) :
    a.scopeAfter settings (a.steps.take (i + 1)) s = a.scopeAfter settings (a.steps.take i) s ∧
    (∀ next, T.steps[i + 1]? = some next → next.inputs = r.inputs) ∧
    ∃ T', (a.withSteps (a.steps.eraseIdx i)).trace settings iteration context =
        (.ok T', warnings) ∧
      T'.steps = T.steps.eraseIdx i ∧ T'.final = T.final := by
  obtain ⟨step, hstep, rfl⟩ := exists_step_of_trace hs hT hr
  have hkeeps := stepKeepsScope_of_writesLast he hw
  have hsame := (scopeAfter_take_succ hstep).trans (scope_of_failed he hkeeps)
  exact ⟨hsame, trace_withoutStep hs hT hr he hsame⟩

/-- The steps `y = n`, `x = 100 / n` and `y`. -/
def assignedQuotient : Algorithm :=
  ofTexts "" [] [("F1", "y = n"), ("F2", "x = 100 / n"), ("F3", "y")]

/-- For zero the second step fails and leaves no trace of itself. -/
theorem trace_rollback_quotient :
    ∃ T r next T', (assignedQuotient.trace Settings.default (.num (.int 0)) []).1 = .ok T ∧
      T.steps[1]? = some r ∧ r.error?.isSome = true ∧
      T.steps[2]? = some next ∧ next.inputs = r.inputs ∧
      ((assignedQuotient.withSteps (assignedQuotient.steps.eraseIdx 1)).trace Settings.default
        (.num (.int 0)) []).1 = .ok T' ∧
      T'.steps = T.steps.eraseIdx 1 ∧ T'.final = T.final := by
  obtain ⟨s, hs⟩ : ∃ s, assignedQuotient.scope (.num (.int 0)) [] [] = .ok s := ⟨_, rfl⟩
  have hsettles : assignedQuotient.EachSettles Settings.default assignedQuotient.steps s := by
    cases hs
    decide +kernel
  have hfails : (assignedQuotient.record Settings.default ⟨some .formula, "F2", "F2"⟩
      (assignedQuotient.scopeAfter Settings.default (assignedQuotient.steps.take 1)
        s)).error?.isSome = true := by
    cases hs
    decide +kernel
  have hlast : assignedQuotient.StepWritesLast Settings.default
      ⟨some .formula, "F2", "F2"⟩ = true := by
    decide +kernel
  have hT := trace_eq_ok_iff.mpr ⟨s, hs, hsettles, rfl, rfl⟩
  obtain ⟨-, hnext, T', hT', hsteps, hfinal⟩ := trace_rollback hs hT rfl hfails
    (stepKeepsScope_of_writesLast hfails hlast)
  exact ⟨_, _, _, T', congrArg Prod.fst hT, rfl, hfails, rfl, hnext _ rfl,
    congrArg Prod.fst hT', hsteps, hfinal⟩

/-- The steps `(x = 1) + null` and `x`. -/
def assignedOperand : Algorithm :=
  ofTexts "" [] [("F1", "(x = 1) + null"), ("F2", "x")]

/-- The sum fails at its second operand, after the assignment in the first one,
    which the next step then reads. -/
theorem not_trace_rollback :
    ∃ T r next, (assignedOperand.trace Settings.default (.num (.int 0)) []).1 = .ok T ∧
      T.steps = [r, next] ∧ r.error?.isSome = true ∧ next.inputs ≠ r.inputs ∧
      next.error? = none := by
  obtain ⟨s, hs⟩ : ∃ s, assignedOperand.scope (.num (.int 0)) [] [] = .ok s := ⟨_, rfl⟩
  have hsettles : assignedOperand.EachSettles Settings.default assignedOperand.steps s := by
    cases hs
    decide +kernel
  have hT := trace_eq_ok_iff.mpr ⟨s, hs, hsettles, rfl, rfl⟩
  have hinputs : (assignedOperand.records Settings.default assignedOperand.steps s).map
      (·.inputs.length) = [1, 2] := by
    cases hs
    decide +kernel
  have herrors : (assignedOperand.records Settings.default assignedOperand.steps s).map
      (·.error?.isSome) = [true, false] := by
    cases hs
    decide +kernel
  have hsteps : ∃ r next, assignedOperand.records Settings.default assignedOperand.steps s =
      [r, next] := ⟨_, _, rfl⟩
  obtain ⟨r, next, hsteps⟩ := hsteps
  simp only [hsteps, List.map_cons, List.map_nil, List.cons.injEq, and_true] at hinputs herrors
  refine ⟨_, r, next, congrArg Prod.fst hT, hsteps, herrors.1, ?_, by simpa using herrors.2⟩
  intro heq
  have hlength := congrArg List.length heq
  omega

end TokenFormula.Algorithm
