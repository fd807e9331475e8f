import TokenFormula.Algorithm.Trace
import TokenFormula.Proofs.Algorithm.Step
import TokenFormula.Proofs.Expr.Outcome

/-!
# Records of steps

A trace has one record for each step, made in the scope that the steps before it
left. Its final value and its errors can be read off the records, and so can
the results of a run.

Results:
* `trace_eq_ok_iff`: what a trace consists of, and when there is one.
* `records_append`: the records of two lists of steps.
* `runSteps_ok`, `runSteps_failed`: the records of the steps of a run.
-/

namespace TokenFormula

namespace StepResult

/-- The value of a step; null where it has none. -/
def output (r : StepResult (Option Value)) : Value :=
  match r.outcome with
  | .ok (some v) => v
  | _ => .null

/-- The message of a step that failed. -/
def message? (r : StepResult (Option Value)) : Option String :=
  match r.outcome with
  | .error (.step f) => some f.message
  | _ => none

/-- The step does not end with a fault that is not laid to it. -/
def Settles (r : StepResult (Option Value)) : Prop :=
  ∀ f, r.outcome ≠ .error (.escaped f)

instance (r : StepResult (Option Value)) : Decidable r.Settles :=
  match h : r.outcome with
  | .error (.escaped f) => isFalse fun hs => hs f h
  | .error (.step _) | .error (.invalid _) | .ok _ => isTrue fun f hf => by rw [h] at hf; cases hf

theorem message?_eq_none {r : StepResult (Option Value)} (h : ∀ e, r.outcome ≠ .error e) :
    r.message? = none := by
  unfold message?
  split
  · exact absurd ‹_› (h _)
  · rfl

end StepResult

namespace Algorithm

open StepResult

variable (a : Algorithm) (settings : Settings)

/-- The scope that steps leave, whatever becomes of each. -/
def scopeAfter (steps : List Step) (s : Scope) : Scope :=
  steps.foldl (fun s step => (a.runStep settings step s).scope) s

/-- The record of a step in a scope. -/
def record (step : Step) (s : Scope) : TraceStep :=
  let r := a.runStep settings step s
  ⟨step, s.shownBindings, r.output, r.message?, a.readsOf settings.language step⟩

/-- The records of steps, each in the scope that the ones before it left. -/
def records : List Step → Scope → List TraceStep
  | [], _ => []
  | step :: rest, s =>
    a.record settings step s :: records rest (a.runStep settings step s).scope

/-- No step ends with a fault that is not laid to it. -/
def EachSettles : List Step → Scope → Prop
  | [], _ => True
  | step :: rest, s =>
    (a.runStep settings step s).Settles ∧ EachSettles rest (a.runStep settings step s).scope

/-- It can be tested whether each step settles. -/
def decidableEachSettles : (steps : List Step) → (s : Scope) →
    Decidable (EachSettles a settings steps s)
  | [], _ => isTrue trivial
  | step :: rest, s =>
    have := decidableEachSettles rest (a.runStep settings step s).scope
    inferInstanceAs (Decidable (_ ∧ _))

instance (steps : List Step) (s : Scope) : Decidable (EachSettles a settings steps s) :=
  decidableEachSettles a settings steps s

/-- The warnings about steps whose target is missing. -/
def skipWarnings (steps : List Step) : List String :=
  steps.flatMap fun step =>
    match a.target settings step with
    | .error warning => [warning]
    | .ok _ => []

/-- The step of a record was run and has a value. -/
def ran (r : TraceStep) : Bool :=
  a.hasTarget r.step && r.error?.isNone

/-- The value of the last formula that ran, after `final` before the records. -/
def finalFrom (final : Value) (rs : List TraceStep) : Value :=
  rs.foldl (fun v r => if a.ran r && r.step.type? == some .formula then r.output else v) final

/-- The values of the steps that ran, written under the names of their targets
    in order. -/
def resultsFrom (results : Entries Value) (rs : List TraceStep) : Entries Value :=
  rs.foldl (fun es r => if a.ran r then es.set (a.targetName r.step) r.output else es) results

/-- The lines for the steps that failed, from place `i` on. -/
def failureLines : (i : Nat) → List TraceStep → List String
  | _, [] => []
  | i, r :: rest => (r.error?.map (failureLine i r.step)).toList ++ failureLines (i + 1) rest

variable {a settings} {step : Step} {steps rest : List Step} {s s' : Scope} {i : Nat} {t T : Trace}

/-! ## Records -/

@[simp] theorem scopeAfter_nil : a.scopeAfter settings [] s = s := rfl

@[simp] theorem scopeAfter_cons : a.scopeAfter settings (step :: rest) s =
    a.scopeAfter settings rest (a.runStep settings step s).scope := rfl

theorem scopeAfter_append (steps rest : List Step) (s : Scope) :
    a.scopeAfter settings (steps ++ rest) s =
      a.scopeAfter settings rest (a.scopeAfter settings steps s) :=
  List.foldl_append

@[simp] theorem records_nil : a.records settings [] s = [] := rfl

@[simp] theorem records_cons : a.records settings (step :: rest) s =
    a.record settings step s :: a.records settings rest (a.runStep settings step s).scope := rfl

theorem error?_record :
    (a.record settings step s).error? = (a.runStep settings step s).message? := rfl

theorem records_append (steps rest : List Step) (s : Scope) :
    a.records settings (steps ++ rest) s =
      a.records settings steps s ++ a.records settings rest (a.scopeAfter settings steps s) := by
  induction steps generalizing s with
  | nil => rfl
  | cons step steps ih => simp [ih]

@[simp] theorem length_records (steps : List Step) (s : Scope) :
    (a.records settings steps s).length = steps.length := by
  induction steps generalizing s with
  | nil => rfl
  | cons step steps ih => simp [ih]

theorem eachSettles_append (steps rest : List Step) (s : Scope) :
    a.EachSettles settings (steps ++ rest) s ↔ a.EachSettles settings steps s ∧
      a.EachSettles settings rest (a.scopeAfter settings steps s) := by
  induction steps generalizing s with
  | nil => simp [EachSettles]
  | cons step steps ih => simp [EachSettles, ih, and_assoc]

theorem skipWarnings_append (steps rest : List Step) :
    a.skipWarnings settings (steps ++ rest) =
      a.skipWarnings settings steps ++ a.skipWarnings settings rest :=
  List.flatMap_append

/-! ## One step -/

theorem skipWarnings_of_target {t : Target} (ht : a.target settings step = .ok t) :
    a.skipWarnings settings [step] = [] := by
  simp [skipWarnings, ht]

theorem skipWarnings_of_skip {warning : String} (ht : a.target settings step = .error warning) :
    a.skipWarnings settings [step] = [warning] := by
  simp [skipWarnings, ht]

theorem hasTarget_of_target {t : Target} (ht : a.target settings step = .ok t) :
    a.hasTarget step = true :=
  (exists_target_iff settings).mp ⟨t, ht⟩

theorem hasTarget_of_skip {warning : String} (ht : a.target settings step = .error warning) :
    a.hasTarget step = false := by
  rw [Bool.eq_false_iff, ne_eq, ← exists_target_iff settings]
  rintro ⟨t, h⟩
  rw [ht] at h
  cases h

/-- The trace with one more record, at place `i`. -/
def withRecord (a : Algorithm) (i : Nat) (r : TraceStep) (t : Trace) : Trace :=
  ⟨t.steps ++ [r], a.finalFrom t.final [r], t.errors ++ failureLines i [r]⟩

/-- A step that settles adds its record to a trace. -/
theorem traceSteps_cons (hs : (a.runStep settings step s).Settles) :
    a.traceSteps settings i (step :: rest) t s =
      ((a.traceSteps settings (i + 1) rest (a.withRecord i (a.record settings step s) t)
          (a.runStep settings step s).scope).1,
        a.skipWarnings settings [step] ++
          (a.traceSteps settings (i + 1) rest (a.withRecord i (a.record settings step s) t)
            (a.runStep settings step s).scope).2) := by
  have hends := a.stepEnds settings step s
  unfold withRecord record
  rw [traceSteps]
  generalize a.runStep settings step s = r at hs hends ⊢
  cases hends with
  | skipped ht =>
    simp [extend, finalFrom, ran, failureLines, StepResult.output, StepResult.message?,
      hasTarget_of_skip ht, skipWarnings_of_skip ht]
  | finished ht =>
    simp only [extend, finalFrom, ran, failureLines, StepResult.output, StepResult.message?,
      skipWarnings_of_target ht]
    by_cases hf : step.type? = some .formula <;> simp [hf, hasTarget_of_target ht]
  | failed ht =>
    simp [extend, finalFrom, ran, failureLines, StepResult.output, StepResult.message?,
      skipWarnings_of_target ht]
  | escaped => exact absurd rfl (hs _)

/-- A step that does not settle ends a trace. -/
theorem settles_of_traceSteps (h : (a.traceSteps settings i (step :: rest) t s).1 = .ok T) :
    (a.runStep settings step s).Settles := by
  intro f hf
  rw [traceSteps] at h
  simp only [hf] at h
  cases h

/-! ## Traces -/

/-- Steps that settle add their records to a trace. -/
theorem traceSteps_of_eachSettles (hs : a.EachSettles settings steps s) :
    a.traceSteps settings i steps t s =
      (.ok ⟨t.steps ++ a.records settings steps s,
        a.finalFrom t.final (a.records settings steps s),
        t.errors ++ failureLines i (a.records settings steps s)⟩,
        a.skipWarnings settings steps) := by
  induction steps generalizing i t s with
  | nil => simp [traceSteps, finalFrom, failureLines, skipWarnings]
  | cons step rest ih =>
    rw [traceSteps_cons hs.1, ih hs.2]
    simp [withRecord, finalFrom, failureLines, skipWarnings]

theorem eachSettles_of_traceSteps (h : (a.traceSteps settings i steps t s).1 = .ok T) :
    a.EachSettles settings steps s := by
  induction steps generalizing i t s with
  | nil => trivial
  | cons step rest ih =>
    have hs := settles_of_traceSteps h
    rw [traceSteps_cons hs] at h
    exact ⟨hs, ih h⟩

/-- There is a trace if every step settles in the scope that the ones before it
    left, and it consists of their records. -/
theorem trace_eq_ok_iff {iteration : Value} {context : Entries Value} {warnings : List String} :
    a.trace settings iteration context = (.ok T, warnings) ↔
      ∃ s, a.scope iteration context [] = .ok s ∧ a.EachSettles settings a.steps s ∧
        T = ⟨a.records settings a.steps s, a.finalFrom .null (a.records settings a.steps s),
          failureLines 0 (a.records settings a.steps s)⟩ ∧
        warnings = a.skipWarnings settings a.steps := by
  unfold trace
  cases hscope : a.scope iteration context [] with
  | error f => simp
  | ok s =>
    dsimp only
    constructor
    · intro h
      have hs := eachSettles_of_traceSteps (congrArg Prod.fst h)
      rw [traceSteps_of_eachSettles hs] at h
      simp only [List.nil_append, Prod.mk.injEq, Except.ok.injEq] at h
      exact ⟨s, rfl, hs, h.1.symm, h.2.symm⟩
    · rintro ⟨s₀, hs₀, hs, rfl, rfl⟩
      cases hs₀
      simp [traceSteps_of_eachSettles hs]

/-! ## Runs -/

section Run

variable {p q : Progress} {f : StepFailure} {warnings : List String}

/-- The progress after the step of a record. -/
def withResult (a : Algorithm) (r : TraceStep) (p : Progress) : Progress :=
  ⟨a.resultsFrom p.results [r], a.finalFrom p.final [r]⟩

/-- A step that does not fail adds its record to the progress of a run. -/
theorem runSteps_cons (he : ∀ e, (a.runStep settings step s).outcome ≠ .error e) :
    a.runSteps settings (step :: rest) p s =
      let r := a.runSteps settings rest (a.withResult (a.record settings step s) p)
        (a.runStep settings step s).scope
      ⟨r.outcome, r.scope, a.skipWarnings settings [step] ++ r.warnings⟩ := by
  have hends := a.stepEnds settings step s
  unfold withResult record
  rw [runSteps]
  generalize a.runStep settings step s = r at he hends ⊢
  cases hends with
  | skipped ht =>
    simp [resultsFrom, finalFrom, ran, hasTarget_of_skip ht, skipWarnings_of_skip ht]
  | finished ht =>
    simp only [advance, resultsFrom, finalFrom, ran, StepResult.output, StepResult.message?,
      skipWarnings_of_target ht]
    by_cases hf : step.type? = some .formula <;> simp [hf, hasTarget_of_target ht]
  | failed => exact absurd rfl (he _)
  | escaped => exact absurd rfl (he _)

/-- A step that fails ends a run. -/
theorem runSteps_cons_error {e : RunError} (he : (a.runStep settings step s).outcome = .error e) :
    (a.runSteps settings (step :: rest) p s).outcome = .error e := by
  rw [runSteps]
  generalize a.runStep settings step s = r at he ⊢
  obtain ⟨outcome, scope, warnings⟩ := r
  cases he
  rfl

/-- Where a run ends well, its first step does not fail. -/
theorem runStep_of_runSteps_ok
    (h : (a.runSteps settings (step :: rest) p s).outcome = .ok q) :
    ∀ e, (a.runStep settings step s).outcome ≠ .error e := by
  intro e he
  rw [runSteps_cons_error he] at h
  cases h

/-- A run that ends well has no failed step, and its progress is that of the
    records. -/
theorem runSteps_ok (h : (a.runSteps settings steps p s).outcome = .ok q) :
    a.EachSettles settings steps s ∧ (∀ r ∈ a.records settings steps s, r.error? = none) ∧
      q = ⟨a.resultsFrom p.results (a.records settings steps s),
        a.finalFrom p.final (a.records settings steps s)⟩ ∧
      (a.runSteps settings steps p s).warnings = a.skipWarnings settings steps := by
  induction steps generalizing p s with
  | nil =>
    cases h
    simp [EachSettles, resultsFrom, finalFrom, skipWarnings, runSteps]
  | cons step rest ih =>
    have he := runStep_of_runSteps_ok h
    rw [runSteps_cons he] at h ⊢
    obtain ⟨hsettles, hnone, hq, hw⟩ := ih h
    refine ⟨⟨fun f => he _, hsettles⟩, ?_, ?_, ?_⟩
    · simpa [error?_record, message?_eq_none he] using hnone
    · simpa [withResult, resultsFrom, finalFrom] using hq
    · simp [hw, skipWarnings]

/-- Such a run leaves the scope that its steps leave one after the other. -/
theorem scope_of_runSteps_ok (h : (a.runSteps settings steps p s).outcome = .ok q) :
    (a.runSteps settings steps p s).scope = a.scopeAfter settings steps s := by
  induction steps generalizing p s with
  | nil => rfl
  | cons step rest ih =>
    have he := runStep_of_runSteps_ok h
    rw [runSteps_cons he] at h ⊢
    exact ih h

/-- Where a run ends at a step that fails, the record of that step is the first
    one with a message. -/
theorem runSteps_failed (h : (a.runSteps settings steps p s).outcome = .error (.step f)) :
    (a.records settings steps s).findSome? TraceStep.error? = some f.message := by
  induction steps generalizing p s with
  | nil => cases h
  | cons step rest ih =>
    cases ho : (a.runStep settings step s).outcome with
    | error e =>
      rw [runSteps_cons_error ho] at h
      cases h
      simp [error?_record, StepResult.message?, ho]
    | ok v =>
      have he : ∀ e, (a.runStep settings step s).outcome ≠ .error e := by simp [ho]
      rw [runSteps_cons he] at h
      simpa [error?_record, message?_eq_none he] using ih h

end Run

section Outcome

variable {p : Progress} {r : Run} {f : StepFailure} {iteration : Value}
  {context : Entries Value} {modes : Modes} {warnings : List String}

theorem ofProgress_ok (h : Run.ofProgress p iteration s = .ok r) : p = ⟨r.results, r.final⟩ := by
  unfold Run.ofProgress at h
  dsimp only at h
  split at h
  · cases h
  · split at h <;> cases h
    rfl

theorem ofProgress_ne_step : Run.ofProgress p iteration s ≠ .error (.step f) := by
  intro h
  unfold Run.ofProgress at h
  dsimp only at h
  split at h
  · cases h
  · split at h <;> cases h

/-- The steps behind the result of a run. -/
theorem run_ok (h : a.run settings iteration context modes = (.ok r, warnings)) :
    ∃ s, a.scope iteration context modes = .ok s ∧
      (a.runSteps settings a.steps ⟨[], .null⟩ s).outcome = .ok ⟨r.results, r.final⟩ ∧
      (a.runSteps settings a.steps ⟨[], .null⟩ s).warnings = warnings := by
  unfold run at h
  split at h
  · cases h
  · rename_i s hs
    obtain ⟨-, -, hscope⟩ := bind_eq_ok hs
    refine ⟨s, hscope, ?_⟩
    split at h
    · cases h
    · rename_i hsteps
      rw [Prod.mk.injEq] at h
      rw [hsteps, ← ofProgress_ok h.1]
      exact ⟨rfl, h.2⟩

/-- The steps behind a failure of a run. -/
theorem run_failed (h : a.run settings iteration context modes = (.error (.step f), warnings)) :
    ∃ s, a.scope iteration context modes = .ok s ∧
      (a.runSteps settings a.steps ⟨[], .null⟩ s).outcome = .error (.step f) := by
  unfold run at h
  split at h
  · cases h
  · rename_i s hs
    obtain ⟨-, -, hscope⟩ := bind_eq_ok hs
    refine ⟨s, hscope, ?_⟩
    split at h
    · rename_i hsteps
      rw [hsteps]
      cases h
      rfl
    · exact absurd (congrArg Prod.fst h) ofProgress_ne_step

end Outcome

end Algorithm
end TokenFormula
