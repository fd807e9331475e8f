import TokenFormula.Proofs.Algorithm.Trace

/-!
# Traces and runs

A trace and a run go through the same steps. Up to the first step that fails
they agree; the run ends there, and the trace goes on, where a later step may
still end it with a fault that the run does not meet.

Results:
* `trace_agrees`: what the trace shows of a run that ends well or fails.
* `not_trace_agrees`: a run that fails at a step and has no trace.
-/

namespace TokenFormula.Algorithm

theorem failureLines_eq_nil {rs : List TraceStep} (h : ∀ r ∈ rs, r.error? = none) (i : Nat) :
    failureLines i rs = [] := by
  induction rs generalizing i with
  | nil => rfl
  | cons r rest ih =>
    rw [List.forall_mem_cons] at h
    simp [failureLines, h.1, ih h.2]

/-- The trace of a run that gives a result shows no error, the final value of
    the run and its results. Where a run fails at a step, there is a trace
    exactly if every step settles, and the message of the run is the first one
    that the trace shows. -/
theorem trace_agrees (a : Algorithm) (settings : Settings) (iteration : Value)
    (context : Entries Value) :
    (∀ r warnings, a.run settings iteration context [] = (.ok r, warnings) →
      ∃ T, a.trace settings iteration context = (.ok T, warnings) ∧ T.errors = [] ∧
        (∀ x ∈ T.steps, x.error? = none) ∧ T.final = r.final ∧
        a.resultsFrom [] T.steps = r.results) ∧
    ∀ f warnings, a.run settings iteration context [] = (.error (.step f), warnings) →
      ((∃ T, (a.trace settings iteration context).1 = .ok T) ↔
        ∀ s, a.scope iteration context [] = .ok s → a.EachSettles settings a.steps s) ∧
      ∀ T, (a.trace settings iteration context).1 = .ok T →
        ∃ before x after, T.steps = before ++ x :: after ∧ x.error? = some f.message ∧
          ∀ y ∈ before, y.error? = none := by
  constructor
  · intro r warnings hrun
    obtain ⟨s, hs, hsteps, hw⟩ := run_ok hrun
    obtain ⟨hsettles, hnone, hprogress, hwarnings⟩ := runSteps_ok hsteps
    rw [Progress.mk.injEq] at hprogress
    refine ⟨_, trace_eq_ok_iff.mpr ⟨s, hs, hsettles, rfl, hw.symm.trans hwarnings⟩, ?_⟩
    exact ⟨failureLines_eq_nil hnone 0, hnone, hprogress.2.symm, hprogress.1.symm⟩
  · intro f warnings hrun
    obtain ⟨s, hs, hsteps⟩ := run_failed hrun
    have htrace {T} (h : (a.trace settings iteration context).1 = .ok T) :
        a.EachSettles settings a.steps s ∧ T.steps = a.records settings a.steps s := by
      obtain ⟨s', hs', hsettles, rfl, -⟩ := trace_eq_ok_iff.mp (Prod.ext h rfl)
      rw [hs] at hs'
      cases hs'
      exact ⟨hsettles, rfl⟩
    refine ⟨⟨?_, ?_⟩, ?_⟩
    · rintro ⟨T, hT⟩ s' hs'
      rw [hs] at hs'
      cases hs'
      exact (htrace hT).1
    · intro hsettles
      exact ⟨_, congrArg Prod.fst (trace_eq_ok_iff.mpr ⟨s, hs, hsettles s hs, rfl, rfl⟩)⟩
    · intro T hT
      obtain ⟨before, x, after, heq, hx, hbefore⟩ :=
        List.findSome?_eq_some_iff.mp (runSteps_failed hsteps)
      exact ⟨before, x, after, (htrace hT).2.trans heq, hx, hbefore⟩

/-- The steps `n`, `d || missing` and `n && d`, with a number for `d`. -/
def alternative (d : Int) : Algorithm :=
  ofTexts "" [⟨"v1", "d", some .number, .num (.int d), none, false, none, none⟩]
    [("F1", "n"), ("F2", "d || missing"), ("F3", "n && d")]

set_option maxRecDepth 10000 in
/-- With one for `d` the run ends well; with zero its second step fails, and the
    trace goes on. -/
theorem trace_agrees_alternative :
    (∃ r T, ((alternative 1).run Settings.default (.num (.int 3)) [] []).1 = .ok r ∧
      ((alternative 1).trace Settings.default (.num (.int 3)) []).1 = .ok T ∧
      T.errors = [] ∧ T.final = r.final ∧ (alternative 1).resultsFrom [] T.steps = r.results) ∧
    ∃ T before x after, ((alternative 0).trace Settings.default (.num (.int 3)) []).1 = .ok T ∧
      T.steps = before ++ x :: after ∧
      x.error? = some "Formula execution failed for F2: 'missing' is not defined" ∧
      ∀ y ∈ before, y.error? = none := by
  have hn : (Number.int 3).HasText := Number.safeLimit_lt_textLimit (by decide)
  constructor
  · have hrun : ∃ r, ((alternative 1).run Settings.default (.num (.int 3)) [] []).1 = .ok r := by
      rw [run_num hn rfl]
      exact ⟨_, rfl⟩
    obtain ⟨r, hr⟩ := hrun
    obtain ⟨T, hT, herrors, -, hfinal, hresults⟩ :=
      (trace_agrees (alternative 1) Settings.default (.num (.int 3)) []).1 r _ (Prod.ext hr rfl)
    exact ⟨r, T, hr, congrArg Prod.fst hT, herrors, hfinal, hresults⟩
  · have hrun : ∃ f, (alternative 0).run Settings.default (.num (.int 3)) [] [] =
        (.error (.step f), []) ∧
        f.message = "Formula execution failed for F2: 'missing' is not defined" := by
      rw [run_num hn rfl]
      exact ⟨_, rfl, rfl⟩
    obtain ⟨f, hf, hmessage⟩ := hrun
    obtain ⟨hexists, hfirst⟩ :=
      (trace_agrees (alternative 0) Settings.default (.num (.int 3)) []).2 f [] hf
    obtain ⟨T, hT⟩ := hexists.mpr (by
      intro s hs
      cases hs
      decide +kernel)
    obtain ⟨before, x, after, hsteps, hx, hbefore⟩ := hfirst T hT
    exact ⟨T, before, x, after, hT, hsteps, hmessage ▸ hx, hbefore⟩

/-- The steps `1 / 0` and `x = big * big`. -/
def tooLong : Algorithm :=
  ofTexts "" [⟨"v1", "big", some .number, .num (.int (10 ^ 2200)), none, false, none, none⟩]
    [("F1", "1 / 0"), ("F2", "x = big * big")]

set_option maxRecDepth 10000 in
/-- The run fails at the first step. The trace goes on to the second, where the
    value that is assigned has too many digits to be shown, and ends with that
    fault. -/
theorem not_trace_agrees :
    (∃ f, (tooLong.run Settings.default (.num (.int 0)) [] []).1 = .error (.step f)) ∧
    ¬ ∃ T, (tooLong.trace Settings.default (.num (.int 0)) []).1 = .ok T := by
  constructor
  · rw [run_num (Number.safeLimit_lt_textLimit (by decide)) rfl]
    exact ⟨_, rfl⟩
  · rintro ⟨T, hT⟩
    obtain ⟨s, hs, hsettles, -⟩ := trace_eq_ok_iff.mp (Prod.ext hT rfl)
    cases hs
    exact absurd hsettles (by decide +kernel)

end TokenFormula.Algorithm
