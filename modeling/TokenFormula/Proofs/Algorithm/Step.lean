import TokenFormula.Algorithm.Run
import TokenFormula.Proofs.Value.Text

/-!
# Steps

A step is skipped, gives a value, fails, or ends with a fault that is not laid
to it. Nothing but the evaluation of its tree touches the scope, and nothing but
a skipped step leaves a warning.

Results:
* `stepEnds`: the four ends of a step.
* `exists_target_iff`, `target_cases`: the steps that are not skipped, and what they run.
* `run_num`: a run, for an iteration value that has a text.
-/

namespace TokenFormula.Algorithm

/-- The algorithm that runs named formula texts in order. -/
def ofTexts (valueType : String) («variables» : List Variable) (sources : List (String × String)) :
    Algorithm where
  id := "algo"
  name := "Algo"
  description? := none
  valueType := valueType
  «variables» := «variables»
  formulas := sources.map fun p => ⟨p.1, p.1, none, [("javascript", ⟨p.2, none⟩)]⟩
  conditions := []
  steps := sources.map fun p => ⟨some .formula, p.1, p.1⟩
  generation? := none

/-- What a step refers to is there. -/
def hasTarget (a : Algorithm) (step : Step) : Bool :=
  match step.type? with
  | some .formula => (a.formula? step.id).isSome
  | some .condition => (a.condition? step.id).isSome
  | none => false

section Step

variable {a : Algorithm} {settings : Settings} {step : Step} {s : Scope}

theorem exists_target_iff (settings : Settings) :
    (∃ t, a.target settings step = .ok t) ↔ a.hasTarget step = true := by
  unfold target hasTarget
  dsimp only
  cases step.type? with
  | none => simp
  | some type =>
    cases type with
    | formula => cases a.formula? step.id <;> simp
    | condition => cases a.condition? step.id <;> simp

/-- What a step runs is a formula or a condition of the algorithm. -/
theorem target_cases {t : Target} (h : a.target settings step = .ok t) :
    (step.type? = some .formula ∧ ∃ f, a.formula? step.id = some f ∧
      t = ⟨"Formula execution failed for ", f.name, f.tree settings,
        recordAssigned (f.tree settings)⟩) ∨
    (step.type? = some .condition ∧ ∃ c, a.condition? step.id = some c ∧
      t = ⟨"Condition evaluation failed for ", c.name, .ok (parseChecked c.source),
        fun v => .ok (.bool v.isTruthy)⟩) := by
  unfold target at h
  dsimp only at h
  split at h
  · rename_i htype
    split at h
    · rename_i f hf
      exact .inl ⟨htype, f, hf, (Except.ok.inj h).symm⟩
    · cases h
  · rename_i htype
    split at h
    · rename_i c hc
      exact .inr ⟨htype, c, hc, (Except.ok.inj h).symm⟩
    · cases h
  · cases h

/-- What a step in a scope comes to. -/
inductive StepEnds (a : Algorithm) (settings : Settings) (step : Step) (s : Scope) :
    StepResult (Option Value) → Prop where
  | skipped {warning : String} (ht : a.target settings step = .error warning) :
      StepEnds a settings step s ⟨.ok none, s, [warning]⟩
  | finished {t : Target} {v r : Value} {s' : Scope} (ht : a.target settings step = .ok t)
      (he : evaluateSourced t.tree s = (.ok (.ok v), s')) (hr : t.result v = .ok r) :
      StepEnds a settings step s ⟨.ok (some r), s', []⟩
  | failed {t : Target} {e : SourceError} {f : StepFailure} {s' : Scope}
      (ht : a.target settings step = .ok t)
      (he : evaluateSourced t.tree s = (.ok (.error e), s')) :
      StepEnds a settings step s ⟨.error (.step f), s', []⟩
  | escaped {t : Target} {f : Fault} {s' : Scope} (ht : a.target settings step = .ok t) :
      StepEnds a settings step s ⟨.error (.escaped f), s', []⟩

/-- Every step comes to one of these ends. -/
theorem stepEnds (a : Algorithm) (settings : Settings) (step : Step) (s : Scope) :
    StepEnds a settings step s (a.runStep settings step s) := by
  unfold runStep
  split
  · exact .skipped ‹_›
  · rename_i t ht
    split
    · exact .escaped ht
    · exact .failed ht ‹_›
    · rename_i he
      split
      · exact .finished ht he ‹_›
      · exact .escaped ht

/-- What becomes of the result of an evaluation. -/
def sourcedOutcome : Except EvalError Value → Except Fault (Except SourceError Value)
  | .ok v => .ok (.ok v)
  | .error (.escaped f) => .error f
  | .error e => .ok (.error (.evaluation e))

/-- A tree that is there is evaluated. -/
theorem evaluateSourced_tree (e : Expr) (s : Scope) :
    evaluateSourced (.ok (.ok e)) s = (sourcedOutcome (e.evaluate s).1, (e.evaluate s).2) := by
  unfold evaluateSourced sourcedOutcome
  dsimp only
  obtain ⟨err | v, t⟩ := e.evaluate s
  · cases err <;> rfl
  · rfl

/-- A tree that has no value leaves the scope as it is, unless it is evaluated. -/
theorem evaluateSourced_error {tree : Sourced Expr} {e : SourceError} {s' : Scope}
    (h : evaluateSourced tree s = (.ok (.error e), s')) :
    s' = s ∧ (∀ expr, tree ≠ .ok (.ok expr)) ∨ ∃ expr err, tree = .ok (.ok expr) ∧
      expr.evaluate s = (.error err, s') ∧ err.isOwn = true := by
  unfold evaluateSourced at h
  split at h
  · cases h
  · cases h
    exact .inl ⟨rfl, by simp⟩
  · rename_i expr
    split at h
    · cases h
    · cases h
    · rename_i err _ hown he
      cases h
      refine .inr ⟨expr, err, rfl, he, ?_⟩
      cases err with
      | escaped f => exact absurd rfl (hown f)
      | _ => rfl

/-- A value for which a run shows its text starts with its scope. -/
theorem run_num {n : Number} (hn : n.HasText) {context : Entries Value} {modes : Modes} {s : Scope}
    (hs : a.scope (.num n) context modes = .ok s) :
    a.run settings (.num n) context modes =
      match a.runSteps settings a.steps ⟨[], .null⟩ s with
      | ⟨.error e, _, warnings⟩ => (.error e, warnings)
      | ⟨.ok p, s, warnings⟩ => (Run.ofProgress p (.num n) s, warnings) := by
  obtain ⟨text, htext⟩ := n.exists_display_iff.mpr hn
  have hplain : (Value.num n).plain = .ok text := by
    rw [Value.plain, Value.display, htext]
    simp
  unfold run recordedScope
  rw [hplain, hs]
  rfl

end Step
end TokenFormula.Algorithm
