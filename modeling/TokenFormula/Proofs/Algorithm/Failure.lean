import TokenFormula.Proofs.Algorithm.Frame

/-!
# What a failure says of its run

A run fails at its first step that fails. The failure names the algorithm and the
formula or condition of that step. Its iteration value is not the one of the run,
but the one that the scope holds when the step has failed, and this is the same
just as long as no step has written it.

Results:
* `exists_of_runSteps_error`: where steps stop, one is the first that fails.
* `runStep_failed`: what the failure of one step says.
* `get?_scope_iteration`, `get?_iteration_scopeAfter`: the iteration value at the start of
  a run and after steps that do not assign it.
* `failure_identifies`: what the failure of a run says.
* `not_failure_identifies`: a formula that assigns the iteration value.
-/

namespace TokenFormula

namespace Algorithm

open Scope

variable {a : Algorithm} {settings : Settings} {step : Step} {steps : List Step} {s s₀ : Scope}
  {p : Progress} {f : StepFailure}

/-! ## The step that fails -/

/-- Where steps stop with an error, one is the first that fails: those before it end well,
    and it fails in the scope that they leave. -/
theorem exists_of_runSteps_error {e : RunError}
    (h : (a.runSteps settings steps p s₀).outcome = .error e) :
    ∃ before step after q s warnings, steps = before ++ step :: after ∧
      a.runSteps settings before p s₀ = ⟨.ok q, s, warnings⟩ ∧
      (a.runStep settings step s).outcome = .error e := by
  induction steps generalizing p s₀ with
  | nil => cases h
  | cons step rest ih =>
    cases ho : (a.runStep settings step s₀).outcome with
    | error e' =>
      rw [runSteps_cons_error ho] at h
      obtain rfl := Except.error.inj h
      exact ⟨[], step, rest, p, s₀, [], rfl, rfl, ho⟩
    | ok v =>
      have he : ∀ e, (a.runStep settings step s₀).outcome ≠ .error e := by
        intro e he
        rw [ho] at he
        cases he
      rw [runSteps_cons he] at h
      obtain ⟨before, last, after, q, s, warnings, rfl, hrun, hlast⟩ := ih h
      refine ⟨step :: before, last, after, q, s, a.skipWarnings settings [step] ++ warnings, rfl,
        ?_, hlast⟩
      rw [runSteps_cons he, hrun]

/-- The formula or condition that the step refers to is there and has the name. -/
def TargetNamed (a : Algorithm) (step : Step) (name : String) : Prop :=
  (step.type? = some .formula ∧ ∃ f, a.formula? step.id = some f ∧ f.name = name) ∨
    (step.type? = some .condition ∧ ∃ c, a.condition? step.id = some c ∧ c.name = name)

theorem targetNamed_of_target {t : Target} (h : a.target settings step = .ok t) :
    a.TargetNamed step t.name := by
  obtain ⟨htype, f, hf, rfl⟩ | ⟨htype, c, hc, rfl⟩ := target_cases h
  · exact .inl ⟨htype, f, hf, rfl⟩
  · exact .inr ⟨htype, c, hc, rfl⟩

/-- The failure of a step names the algorithm and the target of the step, and has the
    iteration value that the scope holds then. -/
theorem runStep_failed (h : (a.runStep settings step s).outcome = .error (.step f)) :
    f.algorithm = a.id ∧ a.TargetNamed step f.step ∧
      f.iteration = Value.ofOption ((a.runStep settings step s).scope.get? iterationName) := by
  unfold runStep at h ⊢
  split at h
  · cases h
  · rename_i t ht
    split at h
    · cases h
    · rename_i e s' he
      obtain rfl := RunError.step.inj (Except.error.inj h)
      exact ⟨rfl, targetNamed_of_target ht, rfl⟩
    · split at h <;> cases h

/-! ## The iteration value -/

/-- The iteration value can be read at the start of a run and cannot be reached under
    another name, if no variable has a reserved name as its id. -/
theorem get?_scope_iteration {iteration : Value} {context : Entries Value} {modes : Modes}
    (hs : a.scope iteration context modes = .ok s)
    (hids : ∀ v ∈ a.variables, v.id ∉ reservedNames) :
    s.get? iterationName = some iteration ∧ s.aliases.get? iterationName = none ∧
      ∀ key name, s.aliases.get? key = some name →
        ∃ v ∈ a.variables, v.id = key ∧ v.name = name := by
  obtain ⟨d, hd, hs⟩ := bind_eq_ok hs
  obtain rfl := Except.ok.inj hs
  have haliases : ∀ key name, d.aliases.get? key = some name →
      ∃ v ∈ a.variables, v.id = key ∧ v.name = name := by
    intro key name hkey
    obtain ⟨v, hv, -, -, hid, hname⟩ := exists_of_alias hd hkey
    exact ⟨v, hv, hid, hname⟩
  have hreserved : ∀ key ∈ reservedNames, d.aliases.get? key = none := by
    intro key hkey
    cases hget : d.aliases.get? key with
    | none => rfl
    | some name =>
      obtain ⟨v, hv, rfl, -⟩ := haliases key name hget
      exact absurd hkey (hids v hv)
  generalize hgiven : d.setAll (context.filter fun p => p.1 != iterationName) = t
  have ht : t.aliases = d.aliases := by rw [← hgiven, aliases_setAll]
  have haliased : (t.set iterationName iteration).withTables.aliases = d.aliases := by
    rw [withTables, aliases_setAll, aliases_set, ht]
  rw [haliased]
  refine ⟨?_, hreserved _ List.mem_cons_self, haliases⟩
  have hdirect : ∀ key ∈ reservedNames, (t.set iterationName iteration).Direct key := by
    intro key hkey
    refine direct_of_no_alias ?_
    rw [aliases_set, ht]
    exact hreserved key hkey
  have htables : ∀ p ∈ tables, (t.set iterationName iteration).Direct p.1 := fun p hp =>
    hdirect p.1 (List.mem_cons_of_mem _ (List.mem_map_of_mem hp))
  rw [withTables, get?_setAll_of_direct htables (by decide) (hdirect _ List.mem_cons_self),
    get?_set_key]
  rfl

/-- A step leaves a name as it is that none of its targets reaches. -/
theorem get?_runStep {name : String} (hname : s.aliases.get? name = none)
    (h : ∀ e, a.RunsTree settings step e → ∀ key, .text key ∈ e.assigned →
      key ≠ name ∧ s.aliases.get? key ≠ some name) :
    (a.runStep settings step s).scope.aliases = s.aliases ∧
      (a.runStep settings step s).scope.get? name = s.get? name := by
  obtain ⟨ws, hws, hhits⟩ := writes_runStep a settings step s
  rw [hws, aliases_writes]
  refine ⟨rfl, ?_⟩
  have hdirect : (s.writes ws).Direct name := direct_of_no_alias (by rw [aliases_writes, hname])
  rw [hdirect.get?, (direct_of_no_alias hname).get?]
  by_cases htree : ∃ e, a.RunsTree settings step e
  · obtain ⟨e, he⟩ := htree
    have hkeeps : KeepsOthers e.assigned s (s.writes ws) := by
      refine keepsOthers_writes fun w hw => ?_
      obtain ⟨e', he', hhit⟩ := hhits w hw
      exact runsTree_unique he he' ▸ hhit
    exact hkeeps.1 name (h e he)
  · cases ws with
    | nil => rfl
    | cons w ws =>
      obtain ⟨e, he, -⟩ := hhits w List.mem_cons_self
      exact absurd ⟨e, he⟩ htree

/-- No id of a variable is a reserved name, and no tree that a step evaluates assigns the
    iteration value, under its name or under the id of a variable of that name. -/
structure LeavesIteration (a : Algorithm) (settings : Settings) : Prop where
  ids : ∀ v ∈ a.variables, v.id ∉ reservedNames
  targets : ∀ step ∈ a.steps, ∀ e, a.RunsTree settings step e → ∀ key, .text key ∈ e.assigned →
    key ≠ iterationName ∧ ∀ v ∈ a.variables, v.id = key → v.name ≠ iterationName

/-- The iteration value is still there after steps that do not assign it. -/
theorem get?_iteration_scopeAfter {iteration : Value}
    (hsteps : ∀ step ∈ steps, ∀ e, a.RunsTree settings step e → ∀ key, .text key ∈ e.assigned →
      key ≠ iterationName ∧ ∀ v ∈ a.variables, v.id = key → v.name ≠ iterationName)
    (hs : s.get? iterationName = some iteration) (hn : s.aliases.get? iterationName = none)
    (haliases : ∀ key name, s.aliases.get? key = some name →
      ∃ v ∈ a.variables, v.id = key ∧ v.name = name) :
    (a.scopeAfter settings steps s).get? iterationName = some iteration := by
  induction steps generalizing s with
  | nil => exact hs
  | cons step rest ih =>
    rw [List.forall_mem_cons] at hsteps
    have htargets : ∀ e, a.RunsTree settings step e → ∀ key, .text key ∈ e.assigned →
        key ≠ iterationName ∧ s.aliases.get? key ≠ some iterationName := by
      intro e he key hkey
      obtain ⟨hne, hids⟩ := hsteps.1 e he key hkey
      refine ⟨hne, fun halias => ?_⟩
      obtain ⟨v, hv, hid, hname⟩ := haliases key iterationName halias
      exact hids v hv hid hname
    obtain ⟨hkept, hget⟩ := get?_runStep hn htargets
    exact ih hsteps.2 (hget.trans hs) (hkept ▸ hn) (hkept ▸ haliases)

/-! ## Runs -/

/-- Where a run fails, the failure is that of a step at which it arrives: all steps before it
    have run or have been skipped. The failure has the id of the algorithm and the name of the
    formula or condition of the step, and as iteration value what `n` reads in the scope that
    the step leaves. That is the iteration value of the run if no step assigns it and no id of
    a variable stands in its way. -/
theorem failure_identifies {n : Number} {context : Entries Value} {modes : Modes}
    {warnings : List String}
    (h : a.run settings (.num n) context modes = (.error (.step f), warnings)) :
    ∃ s₀ step s, a.scope (.num n) context modes = .ok s₀ ∧ a.Arrives settings s₀ step s ∧
      (a.runStep settings step s).outcome = .error (.step f) ∧
      f.algorithm = a.id ∧ a.TargetNamed step f.step ∧
      f.iteration = Value.ofOption ((a.runStep settings step s).scope.get? iterationName) ∧
      (a.LeavesIteration settings → f.iteration = .num n) := by
  obtain ⟨s₀, hs₀, hfailed⟩ := run_failed h
  obtain ⟨before, step, after, q, s, ws, hsplit, hrun, hstep⟩ := exists_of_runSteps_error hfailed
  obtain ⟨hid, hname, hiteration⟩ := runStep_failed hstep
  refine ⟨s₀, step, s, hs₀, ⟨before, after, q, ws, hsplit, hrun⟩, hstep, hid, hname, hiteration,
    fun hleaves => ?_⟩
  obtain ⟨hget, hn, haliases⟩ := get?_scope_iteration hs₀ hleaves.ids
  have hscope : (a.runStep settings step s).scope =
      a.scopeAfter settings (before ++ [step]) s₀ := by
    rw [scopeAfter_append, ← scope_of_runSteps_ok (congrArg StepResult.outcome hrun), hrun]
    rfl
  have htargets := hleaves.targets
  rw [hsplit, ← List.singleton_append, ← List.append_assoc, List.forall_mem_append] at htargets
  rw [hiteration, hscope, get?_iteration_scopeAfter htargets.1 hget hn haliases]
  rfl

/-- The failure of a step that ends a run, if one does. -/
def failureOf? : Except RunError Run → Option StepFailure
  | .error (.step f) => some f
  | _ => none

theorem exists_of_failureOf? {r : Except RunError Run × List String}
    (h : failureOf? r.1 = some f) : ∃ warnings, r = (.error (.step f), warnings) := by
  obtain ⟨outcome, warnings⟩ := r
  unfold failureOf? at h
  split at h
  · rename_i hr
    obtain rfl := Option.some.inj h
    exact ⟨warnings, congrArg (·, warnings) hr⟩
  · cases h

/-- The first formula assigns another name, and the second divides by the iteration value. -/
def dividesByN : Algorithm :=
  ofTexts "dimension" [] [("F1", "x = 1"), ("F2", "100 / n")]

set_option maxRecDepth 10000 in
/-- The failure for zero names zero. -/
theorem failure_identifies_dividesByN :
    ∃ f warnings, dividesByN.run Settings.default (.num (.int 0)) [] [] =
        (.error (.step f), warnings) ∧
      f.algorithm = "algo" ∧ f.step = "F2" ∧ f.iteration = .num (.int 0) := by
  have hfails : (failureOf? (dividesByN.run Settings.default (.num (.int 0)) [] []).1).map
      StepFailure.step = some "F2" := by
    decide +kernel
  obtain ⟨f, hf, hstep⟩ := Option.map_eq_some_iff.mp hfails
  obtain ⟨warnings, hrun⟩ := exists_of_failureOf? hf
  obtain ⟨note, hfirst⟩ : ∃ note, dividesByN.RunsTree Settings.default
      ⟨some .formula, "F1", "F1"⟩ (.assign (.text "x")
        (.literal (some (.num (.int 1))) false none) note) :=
    ⟨_, _, rfl, rfl⟩
  obtain ⟨note', hsecond⟩ : ∃ note, dividesByN.RunsTree Settings.default
      ⟨some .formula, "F2", "F2"⟩ (.binary (.text "/")
        (.literal (some (.num (.int 100))) false none) (.var (.text "n") none) note) :=
    ⟨_, _, rfl, rfl⟩
  have hleaves : dividesByN.LeavesIteration Settings.default := by
    refine ⟨nofun, fun step hstep e he key hkey => ⟨?_, nofun⟩⟩
    rcases List.mem_cons.mp hstep with rfl | hstep
    · rw [runsTree_unique hfirst he] at hkey
      obtain rfl := Value.text.inj (List.mem_singleton.mp hkey)
      decide
    · rw [List.mem_singleton.mp hstep] at he
      rw [runsTree_unique hsecond he] at hkey
      cases hkey
  obtain ⟨-, -, -, -, -, -, hid, -, -, hiteration⟩ := failure_identifies hrun
  exact ⟨f, warnings, hrun, hid, hstep, hiteration hleaves⟩

/-- The first formula assigns the iteration value, and the second divides by zero. -/
def resetsN : Algorithm :=
  ofTexts "dimension" [] [("F1", "n = 99"), ("F2", "1 / 0")]

set_option maxRecDepth 10000 in
/-- The failure for zero names the value that the first formula has assigned. -/
theorem not_failure_identifies :
    ¬ ∀ (a : Algorithm) (settings : Settings) (n : Number) (context : Entries Value)
        (modes : Modes) (f : StepFailure) (warnings : List String),
      a.run settings (.num n) context modes = (.error (.step f), warnings) →
      f.iteration = .num n := by
  intro h
  have hfails : (failureOf? (resetsN.run Settings.default (.num (.int 0)) [] []).1).map
      (·.iteration.identical (.num (.int 99))) = some true := by
    decide +kernel
  obtain ⟨f, hf, hiteration⟩ := Option.map_eq_some_iff.mp hfails
  obtain ⟨warnings, hrun⟩ := exists_of_failureOf? hf
  rw [h _ _ _ _ _ _ _ hrun] at hiteration
  exact absurd hiteration (by decide +kernel)

end Algorithm
end TokenFormula
