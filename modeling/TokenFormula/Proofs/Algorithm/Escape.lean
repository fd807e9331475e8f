import TokenFormula.Proofs.Algorithm.Contained
import TokenFormula.Proofs.Algorithm.Failure
import TokenFormula.Proofs.Algorithm.OwnTree
import TokenFormula.Proofs.Expr.Completed

/-!
# Runs that are reported

A run has a result, or it fails with the failure of a step. Some faults are not laid
to any step: an integer with too many digits for text in the iteration value or in
the value of a variable, what gets out of a step, and a binding to a value that is no
text, which the record of a run refuses. A run is reported just if none of these
comes up.

Results:
* `exists_convert_iff`: the values that a variable of a type can have.
* `runSteps_escapes_iff`: a fault gets out of steps as it gets out of one of them.
* `unnamed_runSteps_iff`: the steps that bind texts only.
* `run_reported_iff`: the runs that have a result or fail with the failure of a step.
* `not_run_reported`: a stored tree out of which a fault gets.
* `run_reported_of_noStoredTree`: the runs of formulas that are texts.
-/

namespace TokenFormula

/-! ## Values of variables -/

/-- The text stands in brackets and is JSON up to an integer with too many digits. -/
def ListsTooManyDigits (s : String) : Prop :=
  ((Text.trim s.toList).head? = some '[' ∧ (Text.trim s.toList).getLast? = some ']') ∧
    ∃ count, Json.read (String.ofList (Text.trim s.toList)) = .error (.tooManyDigits count)

theorem exists_listOrText_iff (s : String) :
    (∃ v, listOrText s = .ok v) ↔ ¬ ListsTooManyDigits s := by
  unfold listOrText ListsTooManyDigits
  dsimp only
  split
  · rename_i hbrackets
    rw [and_iff_right hbrackets]
    cases Json.read (String.ofList (Text.trim s.toList)) with
    | ok v => simp
    | error err => cases err <;> simp
  · rename_i hbrackets
    exact iff_of_true ⟨_, rfl⟩ fun h => hbrackets h.1

/-- A value can become one of the type: what is shown as a text has one, and a text that is
    a list can be read. -/
def VariableType.Converts : Option VariableType → Value → Prop
  | some text, v => ∃ s, v.format = .ok s ∧ ¬ ListsTooManyDigits s
  | some boolean, v | some color, v => v.HasText
  | some number, _ | none, _ => True

theorem exists_convert_iff (type? : Option VariableType) (v : Value) :
    (∃ w, VariableType.convert type? v = .ok w) ↔ VariableType.Converts type? v := by
  cases type? with
  | none => exact iff_of_true ⟨v, rfl⟩ trivial
  | some type =>
    cases type with
    | number => exact iff_of_true ⟨_, rfl⟩ trivial
    | text =>
      constructor
      · rintro ⟨w, hw⟩
        obtain ⟨s, hs, hlist⟩ := bind_eq_ok hw
        exact ⟨s, hs, (exists_listOrText_iff s).mp ⟨w, hlist⟩⟩
      · rintro ⟨s, hs, hlist⟩
        obtain ⟨w, hw⟩ := (exists_listOrText_iff s).mpr hlist
        refine ⟨w, ?_⟩
        rw [VariableType.convert, hs]
        exact hw
    | boolean =>
      cases v with
      | bool b => exact iff_of_true ⟨_, rfl⟩ trivial
      | _ => exact exists_bind_pure_iff.trans (Value.exists_format_iff _)
    | color => exact exists_bind_pure_iff.trans (Value.exists_format_iff v)

namespace Algorithm

variable {a : Algorithm} {settings : Settings} {step : Step} {s : Scope}

/-! ## Steps one after the other -/

section Steps

variable {steps rest : List Step} {s₀ s' : Scope} {p q : Progress} {warnings : List String}
  {step' : Step}

/-- A step among these starts in the scope `s`, and those before it have not failed. -/
def Reached (a : Algorithm) (settings : Settings) (steps : List Step) (p : Progress)
    (s₀ : Scope) (step : Step) (s : Scope) : Prop :=
  ∃ before after q, steps = before ++ step :: after ∧
    (a.runSteps settings before p s₀).outcome = .ok q ∧
    (a.runSteps settings before p s₀).scope = s

theorem arrives_iff : a.Arrives settings s₀ step s ↔
    a.Reached settings a.steps ⟨[], .null⟩ s₀ step s := by
  constructor
  · rintro ⟨before, after, q, warnings, hsplit, hrun⟩
    exact ⟨before, after, q, hsplit, by rw [hrun], by rw [hrun]⟩
  · rintro ⟨before, after, q, hsplit, hok, hscope⟩
    refine ⟨before, after, q, (a.runSteps settings before ⟨[], .null⟩ s₀).warnings, hsplit, ?_⟩
    rw [← hok, ← hscope]

theorem not_reached_nil : ¬ a.Reached settings [] p s₀ step s := by
  rintro ⟨before, after, q, hsplit, -⟩
  cases before <;> cases hsplit

/-- The first step is reached, and those after it are if it does not fail. -/
theorem reached_cons_iff (he : ∀ e, (a.runStep settings step s₀).outcome ≠ .error e) :
    a.Reached settings (step :: rest) p s₀ step' s' ↔ (step' = step ∧ s' = s₀) ∨
      a.Reached settings rest (a.withResult (a.record settings step s₀) p)
        (a.runStep settings step s₀).scope step' s' := by
  constructor
  · rintro ⟨before, after, q, hsplit, hok, hscope⟩
    cases before with
    | nil =>
      cases hsplit
      exact .inl ⟨rfl, hscope.symm⟩
    | cons first before =>
      obtain ⟨rfl, rfl⟩ := List.cons.inj hsplit
      rw [runSteps_cons he] at hok hscope
      exact .inr ⟨before, after, q, rfl, hok, hscope⟩
  · rintro (⟨rfl, rfl⟩ | ⟨before, after, q, rfl, hok, hscope⟩)
    · exact ⟨[], rest, p, rfl, rfl, rfl⟩
    · refine ⟨step :: before, after, q, rfl, ?_, ?_⟩
      · rw [runSteps_cons he]
        exact hok
      · rw [runSteps_cons he]
        exact hscope

/-- A step that is reached and fails ends the steps with its error. -/
theorem outcome_of_reached {e : RunError} (h : a.Reached settings steps p s₀ step s)
    (he : (a.runStep settings step s).outcome = .error e) :
    (a.runSteps settings steps p s₀).outcome = .error e := by
  obtain ⟨before, after, q, rfl, hok, rfl⟩ := h
  induction before generalizing p s₀ with
  | nil => exact runSteps_cons_error he
  | cons first before ih =>
    have hfirst := runStep_of_runSteps_ok hok
    rw [List.cons_append, runSteps_cons hfirst]
    rw [runSteps_cons hfirst] at hok he
    exact ih hok he

/-- A fault gets out of the steps just if one gets out of a step that is reached. -/
theorem runSteps_escapes_iff :
    (∃ f, (a.runSteps settings steps p s₀).outcome = .error (.escaped f)) ↔
      ∃ step s, a.Reached settings steps p s₀ step s ∧ ¬ a.Contained settings step s := by
  constructor
  · rintro ⟨f, h⟩
    obtain ⟨before, step, after, q, s, warnings, rfl, hrun, hstep⟩ := exists_of_runSteps_error h
    refine ⟨step, s, ⟨before, after, q, rfl, by rw [hrun], by rw [hrun]⟩, fun hc => ?_⟩
    exact settles_iff.mpr hc f hstep
  · rintro ⟨step, s, hreached, hc⟩
    rw [← settles_iff] at hc
    unfold StepResult.Settles at hc
    push Not at hc
    obtain ⟨f, hf⟩ := hc
    exact ⟨f, outcome_of_reached hreached hf⟩

/-! ## Names of bindings -/

/-- Every assignment that the step completes is to a text. -/
def BindsTexts (a : Algorithm) (settings : Settings) (step : Step) (s : Scope) : Prop :=
  ∀ e, a.RunsTree settings step e → ∀ name t₁ t₂, e.Completes s name t₁ t₂ →
    ∃ key, name = .text key

theorem unnamed_runStep_iff : (a.runStep settings step s).scope.unnamed = [] ↔
    s.unnamed = [] ∧ a.BindsTexts settings step s := by
  by_cases htree : ∃ e, a.RunsTree settings step e
  · obtain ⟨e, he⟩ := htree
    rw [scope_of_runsTree he, Expr.unnamed_evaluate_iff]
    refine and_congr_right fun _ => ⟨fun h e' he' => ?_, fun h => h e he⟩
    rw [runsTree_unique he he']
    exact h
  · obtain hs | ⟨e, he, -⟩ := scope_runStep a settings step s
    · rw [hs]
      exact (and_iff_left fun e he => absurd ⟨e, he⟩ htree).symm
    · exact absurd ⟨e, he⟩ htree

/-- After steps that end well only texts are bound just if that was so before and every
    assignment that they complete is to a text. -/
theorem unnamed_runSteps_iff (h : (a.runSteps settings steps p s₀).outcome = .ok q) :
    (a.runSteps settings steps p s₀).scope.unnamed = [] ↔ s₀.unnamed = [] ∧
      ∀ step s, a.Reached settings steps p s₀ step s → a.BindsTexts settings step s := by
  induction steps generalizing p s₀ with
  | nil => exact (and_iff_left fun step s hr => absurd hr not_reached_nil).symm
  | cons step rest ih =>
    have he := runStep_of_runSteps_ok h
    rw [runSteps_cons he] at h ⊢
    refine (ih h).trans ?_
    rw [unnamed_runStep_iff, and_assoc]
    refine and_congr_right fun _ => ?_
    simp only [reached_cons_iff he]
    constructor
    · rintro ⟨hstep, hrest⟩ step' s' (⟨rfl, rfl⟩ | hr)
      · exact hstep
      · exact hrest step' s' hr
    · intro hall
      exact ⟨hall step s₀ (.inl ⟨rfl, rfl⟩), fun step' s' hr => hall step' s' (.inr hr)⟩

end Steps

end Algorithm

/-! ## Runs -/

theorem Scope.unnamed_declare (s : Scope) (v : Variable) (w : Value) :
    (s.declare v w).unnamed = s.unnamed := by
  unfold declare
  dsimp only
  split
  · rfl
  · unfold addAlias
    split <;> rfl

/-- The error is the failure of a step. -/
def RunError.IsOfStep : RunError → Prop
  | .step _ => True
  | _ => False

/-- The record of a run for a number is valid just if all bindings have texts as names. -/
theorem ofProgress_reported_iff (p : Algorithm.Progress) (n : Number) (s : Scope) :
    FailsIn RunError.IsOfStep (Run.ofProgress p (.num n) s) ↔ s.unnamed = [] := by
  have hrecord : Run.ofProgress p (.num n) s =
      if s.unnamedIssues.isEmpty then .ok ⟨s.ownBindings, p.results, n, p.final⟩
      else .error (.invalid s.unnamedIssues) := rfl
  have hempty : s.unnamedIssues.isEmpty = true ↔ s.unnamed = [] := by
    rw [List.isEmpty_iff, Scope.unnamedIssues, List.map_eq_nil_iff]
  rw [hrecord, ← hempty]
  cases s.unnamedIssues.isEmpty with
  | true => exact iff_of_true (.ok _) rfl
  | false => exact iff_of_false (fun h => h _ rfl) nofun

namespace Algorithm

variable {a : Algorithm} {settings : Settings} {iteration : Value} {context : Entries Value}
  {modes : Modes} {s : Scope}

theorem exists_scope_iff : (∃ s, a.scope iteration context modes = .ok s) ↔
    ∀ v ∈ a.variables, (v.name.isEmpty && v.id.isEmpty) = false →
      VariableType.Converts v.type? (v.authored modes) := by
  refine exists_bind_pure_iff.trans (Scope.exists_declared_iff.trans ?_)
  simp only [Variable.value, exists_convert_iff]

theorem unnamed_scope (h : a.scope iteration context modes = .ok s) : s.unnamed = [] := by
  obtain ⟨d, hd, hs⟩ := bind_eq_ok h
  obtain rfl := Except.ok.inj hs
  have hdeclared : d.unnamed = [] :=
    Scope.declareAll_keeps (P := fun t => t.unnamed = []) hd
      (fun v _ t w ht => (t.unnamed_declare v w).trans ht) rfl
  rw [Scope.withTables, Scope.unnamed_setAll]
  exact (Scope.unnamed_setAll d _).trans hdeclared

/-- Steps fail as a step fails or with a fault that gets out of one. -/
theorem runSteps_failed_or {steps : List Step} {p : Progress} {e : RunError}
    (h : (a.runSteps settings steps p s).outcome = .error e) :
    e.IsOfStep ∨ ∃ f, e = .escaped f := by
  obtain ⟨before, step, after, q, t, warnings, -, -, hstep⟩ := exists_of_runSteps_error h
  have hends := a.stepEnds settings step t
  generalize a.runStep settings step t = r at hstep hends
  cases hends with
  | skipped | finished => cases hstep
  | failed =>
    cases hstep
    exact .inl trivial
  | escaped =>
    cases hstep
    exact .inr ⟨_, rfl⟩

/-- The outcome of a run for a number after its steps. -/
def finish (n : Number) (r : StepResult Progress) : Except RunError Run :=
  r.outcome.bind fun p => Run.ofProgress p (.num n) r.scope

theorem run_eq_finish {n : Number} (hn : n.HasText) {s₀ : Scope}
    (hs : a.scope (.num n) context modes = .ok s₀) :
    (a.run settings (.num n) context modes).1 =
      finish n (a.runSteps settings a.steps ⟨[], .null⟩ s₀) := by
  rw [run_num hn hs]
  split <;> rename_i hr <;> rw [hr] <;> rfl

/-- What becomes of the steps of a run, for a scope that binds only texts. -/
theorem finish_reported_iff {s₀ : Scope} (hs : s₀.unnamed = []) (n : Number) :
    FailsIn RunError.IsOfStep (finish n (a.runSteps settings a.steps ⟨[], .null⟩ s₀)) ↔
    (∀ step s, a.Arrives settings s₀ step s → a.Contained settings step s) ∧
      ((∃ q, (a.runSteps settings a.steps ⟨[], .null⟩ s₀).outcome = .ok q) →
        ∀ step s, a.Arrives settings s₀ step s → a.BindsTexts settings step s) := by
  have hcontained : (∀ step s, a.Arrives settings s₀ step s → a.Contained settings step s) ↔
      ¬ ∃ f, (a.runSteps settings a.steps ⟨[], .null⟩ s₀).outcome = .error (.escaped f) := by
    rw [runSteps_escapes_iff]
    simp only [arrives_iff]
    push Not
    exact .rfl
  rw [hcontained]
  cases hr : a.runSteps settings a.steps ⟨[], .null⟩ s₀ with
  | mk outcome s warnings =>
    cases outcome with
    | error e =>
      obtain hstep | ⟨f, rfl⟩ := runSteps_failed_or (congrArg StepResult.outcome hr)
      · -- The steps do not all end well, so nothing is asked of what they bind.
        refine iff_of_true (.error hstep) ⟨?_, nofun⟩
        rintro ⟨f, hf⟩
        cases hf
        exact hstep
      · exact iff_of_false (fun h => h (.escaped f) rfl) fun h => h.1 ⟨f, rfl⟩
    | ok p =>
      -- The record is refused only for bindings to values that are no texts.
      have htexts := unnamed_runSteps_iff (congrArg StepResult.outcome hr)
      rw [hr, and_iff_right hs] at htexts
      refine (ofProgress_reported_iff p n s).trans (htexts.trans ?_)
      simp only [arrives_iff]
      exact ⟨fun h => ⟨nofun, fun _ => h⟩, fun h => h.2 ⟨p, rfl⟩⟩

/-- A run is reported just if it has a scope to start with and its steps are. -/
theorem run_reported_scope_iff (a : Algorithm) (settings : Settings) (n : Number)
    (context : Entries Value) (modes : Modes) :
    FailsIn RunError.IsOfStep (a.run settings (.num n) context modes).1 ↔
      n.HasText ∧ ∃ s₀, a.scope (.num n) context modes = .ok s₀ ∧
        (∀ step s, a.Arrives settings s₀ step s → a.Contained settings step s) ∧
        ((∃ q, (a.runSteps settings a.steps ⟨[], .null⟩ s₀).outcome = .ok q) →
          ∀ step s, a.Arrives settings s₀ step s → a.BindsTexts settings step s) := by
  have hplain : (∃ text, (Value.num n).plain = .ok text) ↔ n.HasText := by
    rw [Value.exists_plain_iff, Value.HasText]
  by_cases hn : n.HasText
  · rw [and_iff_right hn]
    cases hs : a.scope (.num n) context modes with
    | error f =>
      obtain ⟨text, htext⟩ := hplain.mpr hn
      have hrun : a.run settings (.num n) context modes = (.error (.escaped f), []) := by
        unfold run recordedScope
        rw [htext, hs]
        rfl
      rw [hrun]
      exact iff_of_false (fun h => h _ rfl) nofun
    | ok s₀ =>
      rw [run_eq_finish hn hs, finish_reported_iff (unnamed_scope hs) n]
      constructor
      · exact fun h => ⟨s₀, rfl, h⟩
      · rintro ⟨s, hs, h⟩
        obtain rfl := Except.ok.inj hs
        exact h
  · obtain ⟨f, hf⟩ := exists_error_iff.mpr (mt hplain.mp hn)
    have hrun : a.run settings (.num n) context modes = (.error (.escaped f), []) := by
      unfold run recordedScope
      rw [hf]
      rfl
    rw [hrun]
    exact iff_of_false (fun h => h _ rfl) fun h => hn h.1

/-- A run has a result or fails with the failure of a step just under these conditions. The
    iteration value has a text. Each variable that is bound has a value of its type. Out of
    no step at which the run arrives a fault gets. And if no step fails, all the assignments
    that steps complete are to texts. -/
theorem run_reported_iff (a : Algorithm) (settings : Settings) (n : Number)
    (context : Entries Value) (modes : Modes) :
    FailsIn RunError.IsOfStep (a.run settings (.num n) context modes).1 ↔
      n.HasText ∧
      (∀ v ∈ a.variables, (v.name.isEmpty && v.id.isEmpty) = false →
        VariableType.Converts v.type? (v.authored modes)) ∧
      ∀ s₀, a.scope (.num n) context modes = .ok s₀ →
        (∀ step s, a.Arrives settings s₀ step s → a.Contained settings step s) ∧
        ((∃ q, (a.runSteps settings a.steps ⟨[], .null⟩ s₀).outcome = .ok q) →
          ∀ step s, a.Arrives settings s₀ step s → a.BindsTexts settings step s) := by
  have hscope : (∃ s, a.scope (.num n) context modes = .ok s) ↔ _ := exists_scope_iff
  rw [run_reported_scope_iff, ← hscope]
  refine and_congr_right fun _ => ⟨?_, ?_⟩
  · rintro ⟨s₀, hs, h⟩
    refine ⟨⟨s₀, hs⟩, fun s hs' => ?_⟩
    obtain rfl := Except.ok.inj (hs.symm.trans hs')
    exact h
  · rintro ⟨⟨s₀, hs⟩, h⟩
    exact ⟨s₀, hs, h s₀ hs⟩

/-- A call whose name is an integer. -/
def integerCall : Expr :=
  .call (.num (.int 5)) [] none

/-- A formula with this call as its stored tree. -/
def callsInteger : Algorithm where
  id := "algo"
  name := "Algo"
  description? := none
  valueType := "dimension"
  «variables» := []
  formulas := [⟨"F1", "F1", none, [("javascript", ⟨"", some integerCall.entries⟩)]⟩]
  conditions := []
  steps := [⟨some .formula, "F1", "F1"⟩]
  generation? := none

/-- Its run fails, and not with the failure of the step. -/
theorem not_run_reported : ¬ ∀ (a : Algorithm) (settings : Settings) (n : Number)
    (context : Entries Value) (modes : Modes),
    FailsIn RunError.IsOfStep (a.run settings (.num n) context modes).1 := by
  intro h
  have hn : (Number.int 0).HasText := Number.safeLimit_lt_textLimit (by decide)
  have hdata : Expr.ofData (.dict integerCall.entries) = .ok integerCall :=
    Expr.ofData_toData integerCall
  have htree : callsInteger.RunsTree Settings.default ⟨some .formula, "F1", "F1"⟩ integerCall := by
    refine ⟨_, rfl, ?_⟩
    show storedTree Settings.default.validator integerCall.entries = _
    unfold storedTree
    rw [hdata]
    rfl
  obtain ⟨s₀, hs⟩ : ∃ s₀, callsInteger.scope (.num (.int 0)) [] [] = .ok s₀ := ⟨_, rfl⟩
  obtain ⟨f, hf⟩ : ∃ f, (callsInteger.runSteps Settings.default callsInteger.steps ⟨[], .null⟩
      s₀).outcome = .error (.escaped f) :=
    runSteps_escapes_iff.mpr ⟨_, s₀, ⟨[], [], _, rfl, rfl, rfl⟩, fun hc =>
      hc.evaluable _ htree _ s₀ (.here ..) (.callee none s₀ rfl nofun)⟩
  have hrun : (callsInteger.run Settings.default (.num (.int 0)) [] []).1 =
      .error (.escaped f) := by
    rw [run_eq_finish hn hs, finish, hf]
    rfl
  exact h callsInteger Settings.default (.int 0) [] [] _ hrun

/-! ## Formula texts -/

theorem hasText_of_isRead {v : Value} (h : Expr.IsRead v) : v.HasText := by
  cases v with
  | num n =>
    cases n with
    | int k => exact (Value.hasText_int k).mpr (h.2 rfl)
    | real x => trivial
  | null | bool | text => trivial
  | _ => exact h.elim

/-- No fault gets out of a node of the tree of a formula text. -/
theorem not_strays_of_parsed {e : Expr} (he : e.Parsed) : ¬ e.Strays s := by
  intro h
  cases h with
  | fallback note _ h =>
    obtain ⟨w, rfl, hw⟩ := he
    exact h (hasText_of_isRead hw)
  | name note _ hn h =>
    obtain ⟨key, rfl, -⟩ := he
    exact h trivial
  | operator note _ hc h =>
    obtain ⟨o, rfl, -⟩ := he
    obtain h | h := h
    · cases h
    · exact h trivial
  | sign note hc hv h =>
    obtain ⟨o, rfl, -⟩ := he
    exact h trivial
  | callee note _ hn h =>
    obtain ⟨dotted, rfl, -⟩ := he
    exact h dotted rfl
  | assigned note hn hv h =>
    obtain ⟨key, rfl, -⟩ := he
    cases h

section Texts

variable {step : Step}

/-- Without stored trees, what a step evaluates is the tree of a text. -/
theorem parsed_of_runsTree (hstored : a.NoStoredTree) {e : Expr}
    (he : a.RunsTree settings step e) : e.Every Expr.Parsed := by
  have hparse : ∀ source, parseChecked source = .ok e → e.Every Expr.Parsed := by
    intro source h
    unfold parseChecked at h
    dsimp only at h
    split at h
    · obtain rfl := Except.ok.inj h
      exact Expr.parsed_parse source
    · cases h
  obtain ⟨t, ht, htree⟩ := he
  obtain ⟨-, f, hf, rfl⟩ | ⟨-, c, -, rfl⟩ := target_cases ht
  · exact hparse _ (parseChecked_sourceIn (hstored f (List.mem_of_find?_eq_some hf)) htree)
  · exact hparse _ (Except.ok.inj htree)

/-- What a formula assigns at its root can be shown. -/
def ShowsAssigned (a : Algorithm) (settings : Settings) (step : Step) (s : Scope) : Prop :=
  step.type? = some .formula → ∀ name body note v,
    a.RunsTree settings step (.assign name body note) →
    ((Expr.assign name body note).evaluate s).1 = .ok v → v.HasText

/-- Without stored trees a step is contained just if what it assigns can be shown. -/
theorem contained_iff_of_noStoredTree (hstored : a.NoStoredTree) :
    a.Contained settings step s ↔ a.ShowsAssigned settings step s := by
  constructor
  · intro h htype name body note v htree hv
    exact (h.shown htype name body note v htree hv).2
  · intro h
    refine ⟨fun _ f hf expression entries e hx hentries => ?_, fun e he e' t hv => ?_, ?_⟩
    · have hnone := hstored f (List.mem_of_find?_eq_some hf) _ (Entries.mem_of_get? hx)
      rw [hentries] at hnone
      cases hnone
    · exact not_strays_of_parsed ((parsed_of_runsTree hstored he).of_visits hv).root
    · intro htype name body note v htree hv
      obtain ⟨key, rfl, -⟩ := (parsed_of_runsTree hstored htree).root
      exact ⟨trivial, h htype _ body note v htree hv⟩

theorem bindsTexts_of_noStoredTree (hstored : a.NoStoredTree) :
    a.BindsTexts settings step s := by
  rintro e he name t₁ t₂ ⟨hv, -, -, -⟩
  obtain ⟨key, rfl, -⟩ := ((parsed_of_runsTree hstored he).of_visits hv).root
  exact ⟨key, rfl⟩

end Texts

/-- A run without stored trees has a result or fails with the failure of a step just if the
    iteration value has a text, the variables have values of their types and each value that a
    formula assigns at its root can be shown. -/
theorem run_reported_of_noStoredTree (hstored : a.NoStoredTree) (n : Number) :
    FailsIn RunError.IsOfStep (a.run settings (.num n) context modes).1 ↔
      n.HasText ∧ ∃ s₀, a.scope (.num n) context modes = .ok s₀ ∧
        ∀ step s, a.Arrives settings s₀ step s → a.ShowsAssigned settings step s := by
  simp only [run_reported_scope_iff, contained_iff_of_noStoredTree hstored,
    bindsTexts_of_noStoredTree hstored, implies_true, and_true]

end Algorithm
end TokenFormula
