import TokenFormula.Algorithm.Check
import TokenFormula.Proofs.Algorithm.Series
import TokenFormula.Proofs.Algorithm.Trace
import TokenFormula.Proofs.Scope.Laws

/-!
# Algorithms without problems

The check of an algorithm, a run and the naming of tokens look steps up on their
own. Where the check finds no problem, every step refers to something. So no step
is skipped, and the last formula that is listed is the last one that is run.

Results:
* `hasTarget_of_problems`: without problems every step refers to something.
* `Gives`: the values of steps, one after the other.
* `RunGives`: what a run shows of the values of all steps.
* `run_checked`: runs and tokens of an algorithm without problems.
-/

namespace TokenFormula

/-! ## The check -/

theorem eq_false_of_required {isMissing : Bool} {line : String}
    (h : required isMissing line = []) : isMissing = false := by
  cases isMissing with
  | true => cases h
  | false => rfl

namespace Algorithm

variable {a : Algorithm} {settings : Settings} {step : Step} {s : Scope}

/-- A step without problems refers to something. -/
theorem hasTarget_of_stepProblems {i : Nat} (h : a.stepProblems i step = []) :
    a.hasTarget step = true := by
  simp only [stepProblems, List.append_eq_nil_iff] at h
  obtain ⟨⟨⟨htype, -⟩, -⟩, hdangling⟩ := h
  have htype := eq_false_of_required htype
  unfold danglingReference at hdangling
  unfold hasTarget
  cases ht : step.type? with
  | none =>
    rw [ht] at htype
    cases htype
  | some type =>
    rw [ht] at hdangling
    cases type with
    | formula =>
      have hnone := eq_false_of_required hdangling
      simpa using hnone
    | condition =>
      have hnone := eq_false_of_required hdangling
      simpa using hnone

/-- In an algorithm without problems every step refers to something. -/
theorem hasTarget_of_problems {language : String} (h : a.problems language = [])
    (hstep : step ∈ a.steps) : a.hasTarget step = true := by
  simp only [problems, List.append_eq_nil_iff, List.flatMap_eq_nil_iff] at h
  obtain ⟨i, hi, hstep⟩ := List.mem_iff_getElem.mp hstep
  have hmem : (step, i) ∈ a.steps.zipIdx :=
    List.mem_zipIdx_iff_getElem?.mpr (hstep ▸ List.getElem?_eq_getElem hi)
  exact hasTarget_of_stepProblems (h.2 _ hmem)

/-! ## The values of steps -/

/-- The steps give these values, each in the scope that the ones before it left. -/
inductive Gives (a : Algorithm) (settings : Settings) : Scope → List (Step × Value) → Prop
  | nil (s : Scope) : Gives a settings s []
  | cons {step : Step} {v : Value} {s : Scope} {given : List (Step × Value)}
      (hstep : (a.runStep settings step s).outcome = .ok (some v))
      (hrest : Gives a settings (a.runStep settings step s).scope given) :
      Gives a settings s ((step, v) :: given)

/-- The last of the steps with a property, and its value. -/
def lastWith (p : Step → Bool) (given : List (Step × Value)) : Option (Step × Value) :=
  given.reverse.find? fun g => p g.1

/-- The step is one of a formula. -/
def isFormulaStep (step : Step) : Bool :=
  step.type? == some .formula

variable {p q : Progress} {given : List (Step × Value)} {steps : List Step}

/-- A step that refers to something gives a value, unless it fails. -/
theorem exists_value_of_hasTarget (ht : a.hasTarget step = true)
    (he : ∀ e, (a.runStep settings step s).outcome ≠ .error e) :
    ∃ v s', a.runStep settings step s = ⟨.ok (some v), s', []⟩ := by
  have hends := a.stepEnds settings step s
  generalize a.runStep settings step s = r at he hends ⊢
  cases hends with
  | skipped hskip =>
    rw [hasTarget_of_skip hskip] at ht
    cases ht
  | finished => exact ⟨_, _, rfl⟩
  | failed => exact absurd rfl (he _)
  | escaped => exact absurd rfl (he _)

/-- What a step runs has the name under which the value is recorded. -/
theorem name_of_target {t : Target} (h : a.target settings step = .ok t) :
    t.name = a.targetName step := by
  unfold targetName
  rcases target_cases h with ⟨htype, f, hf, rfl⟩ | ⟨htype, c, hc, rfl⟩
  · simp [htype, hf]
  · simp [htype, hc]

/-! ## Runs -/

/-- Where steps that refer to something end well, each of them gives a value, and the
    progress is made with these values. -/
theorem gives_of_runSteps (ht : ∀ step ∈ steps, a.hasTarget step = true)
    (h : (a.runSteps settings steps p s).outcome = .ok q) :
    ∃ given, a.Gives settings s given ∧ given.map Prod.fst = steps ∧
      q = given.foldl (fun p g => a.advance g.1 g.2 p) p := by
  induction steps generalizing p s with
  | nil => exact ⟨[], .nil s, rfl, (Except.ok.inj h).symm⟩
  | cons step rest ih =>
    obtain ⟨hstep, hrest⟩ := List.forall_mem_cons.mp ht
    obtain ⟨v, s', hv⟩ := exists_value_of_hasTarget hstep (runStep_of_runSteps_ok h)
    rw [runSteps, hv] at h
    obtain ⟨given, hgives, hfst, hq⟩ := ih hrest h
    have hout : (a.runStep settings step s).outcome = .ok (some v) := by rw [hv]
    have hscope : (a.runStep settings step s).scope = s' := by rw [hv]
    exact ⟨(step, v) :: given, .cons hout (hscope ▸ hgives), by rw [List.map_cons, hfst], hq⟩

/-- Every value is recorded under the name of its target. -/
theorem results_foldl_advance (given : List (Step × Value)) (p : Progress) :
    (given.foldl (fun p g => a.advance g.1 g.2 p) p).results =
      (given.map fun g => (a.targetName g.1, g.2)).foldl (fun es g => es.set g.1 g.2)
        p.results := by
  induction given generalizing p with
  | nil => rfl
  | cons g rest ih => exact ih _

/-- The final value is that of the last formula. -/
theorem final_foldl_advance (given : List (Step × Value)) (p : Progress) :
    (given.foldl (fun p g => a.advance g.1 g.2 p) p).final =
      ((lastWith isFormulaStep given).map Prod.snd).getD p.final := by
  induction given generalizing p with
  | nil => rfl
  | cons g rest ih =>
    rw [List.foldl_cons, ih, lastWith, lastWith, List.reverse_cons, List.find?_append]
    cases rest.reverse.find? fun g => isFormulaStep g.1 with
    | some g' => rfl
    | none => by_cases hf : g.1.type? = some .formula <;> simp [advance, isFormulaStep, hf]

/-- The run shows what the steps give: all steps run what the names of the results
    say, each name has the value of the last step with it, and the final value is
    that of the last formula. -/
structure RunGives (a : Algorithm) (settings : Settings) (s : Scope)
    (given : List (Step × Value)) (r : Run) : Prop where
  gives : a.Gives settings s given
  steps_eq : given.map Prod.fst = a.steps
  target : ∀ step ∈ a.steps, ∃ t, a.target settings step = .ok t ∧ t.name = a.targetName step
  nodup : r.results.keys.Nodup
  mem_keys_iff : ∀ name, name ∈ r.results.keys ↔ name ∈ a.steps.map a.targetName
  result_eq : ∀ name,
    r.results.get? name = (lastWith (a.targetName · == name) given).map Prod.snd
  final_eq : r.final = ((lastWith isFormulaStep given).map Prod.snd).getD .null

/-- In a run that ends well every step that refers to something is seen. -/
theorem runGives_of_run {iteration : Value} {context : Entries Value} {modes : Modes} {r : Run}
    (ht : ∀ step ∈ a.steps, a.hasTarget step = true)
    (h : (a.run settings iteration context modes).1 = .ok r) :
    ∃ s given, a.scope iteration context modes = .ok s ∧ a.RunGives settings s given r := by
  rcases hrun : a.run settings iteration context modes with ⟨outcome, ws⟩
  rw [hrun] at h
  obtain rfl : outcome = .ok r := h
  obtain ⟨s, hs, hsteps, -⟩ := run_ok hrun
  obtain ⟨given, hgives, hfst, hq⟩ := gives_of_runSteps ht hsteps
  have hresults : r.results = .ofPairs (given.map fun g => (a.targetName g.1, g.2)) :=
    (congrArg Progress.results hq).trans (results_foldl_advance given _)
  refine ⟨s, given, hs, hgives, hfst, fun step hstep => ?_, ?_, fun name => ?_, fun name => ?_,
    (congrArg Progress.final hq).trans (final_foldl_advance given _)⟩
  · obtain ⟨t, ht⟩ := (exists_target_iff settings).mpr (ht step hstep)
    exact ⟨t, ht, name_of_target ht⟩
  · rw [hresults]
    exact Entries.nodup_keys_ofPairs _
  · rw [hresults, Entries.mem_keys_iff, Entries.has_ofPairs, ← hfst]
    simp
  · rw [hresults, Entries.get?_ofPairs, ← List.map_reverse, List.find?_map, Option.map_map]
    rfl

/-- Tokens name the last formula that is listed, which is the last one that is run. -/
theorem lastFormulaName_of_steps (h : given.map Prod.fst = a.steps) :
    a.lastFormulaName = ((lastWith isFormulaStep given).map (·.1.name)).getD "Unknown" := by
  have hfind : given.reverse.find? ((fun s : Step => s.type? == some .formula) ∘ Prod.fst) =
      lastWith isFormulaStep given := rfl
  unfold lastFormulaName
  rw [← h, ← List.map_reverse, List.find?_map, hfind]
  cases lastWith isFormulaStep given <;> rfl

/-! ## Tokens -/

section Tokens

variable {modes : Modes} {n : Number} {t : Token} {ts : List Token}

/-- A token without an error renders the result of the run for its iteration value. -/
theorem run_of_token (h : (a.token settings modes n).1 = .ok t) (ht : t.error? = none) :
    ∃ r, (a.run settings (.num n) [] modes).1 = .ok r ∧ t.iteration = n ∧
      t.formula = a.lastFormulaName ∧ renderFor a.valueType r.final = .ok t.value := by
  unfold token at h
  split at h
  · cases h
  · split at h
    · rename_i r _ hrun
      obtain ⟨name, -, h⟩ := bind_eq_ok (mapError_eq_ok h)
      obtain ⟨value, hvalue, h⟩ := bind_eq_ok h
      obtain rfl := Except.ok.inj h
      exact ⟨r, congrArg Prod.fst hrun, rfl, rfl, hvalue⟩
    · split at h
      · cases h
      · obtain ⟨line, -, h⟩ := bind_eq_ok (mapError_eq_ok h)
        obtain rfl := Except.ok.inj h
        cases ht
    · cases h

/-- The tokens of a series come from single iteration values. -/
theorem exists_token_of_mem (h : (a.tokens settings modes).1 = .ok ts) (ht : t ∈ ts) :
    ∃ n, (a.token settings modes n).1 = .ok t := by
  unfold tokens at h
  split at h
  · obtain rfl := Except.ok.inj h
    cases ht
  · split at h
    · split at h
      · cases h
      · rename_i ns _
        have htokens := (tokensOf_eq_ok_iff a settings modes ns ts).mp h
        obtain ⟨i, hi, rfl⟩ := List.mem_iff_getElem.mp ht
        have hns : i < ns.length := htokens.length_eq ▸ hi
        exact ⟨ns[i], htokens.get hns hi⟩
    · obtain rfl := Except.ok.inj h
      cases ht

end Tokens

/-- In an algorithm without problems a run that ends well skips no step: its results
    are the values of all steps by the names of their targets, and the final value is
    that of the last formula listed. A token without an error names this formula's
    step and renders its value. -/
theorem run_checked (h : a.problems settings.language = []) :
    (∀ (iteration : Value) (context : Entries Value) (modes : Modes) (r : Run),
      (a.run settings iteration context modes).1 = .ok r →
      ∃ s given, a.scope iteration context modes = .ok s ∧ a.RunGives settings s given r) ∧
    ∀ (modes : Modes) (ts : List Token), (a.tokens settings modes).1 = .ok ts →
      ∀ t ∈ ts, t.error? = none →
        ∃ r s given, (a.run settings (.num t.iteration) [] modes).1 = .ok r ∧
          a.scope (.num t.iteration) [] modes = .ok s ∧ a.RunGives settings s given r ∧
          t.formula = ((lastWith isFormulaStep given).map (·.1.name)).getD "Unknown" ∧
          renderFor a.valueType
            (((lastWith isFormulaStep given).map Prod.snd).getD .null) = .ok t.value := by
  have ht : ∀ step ∈ a.steps, a.hasTarget step = true := fun _ => hasTarget_of_problems h
  refine ⟨fun _ _ _ _ => runGives_of_run ht, fun modes ts hts t hmem hnone => ?_⟩
  obtain ⟨n, htoken⟩ := exists_token_of_mem hts hmem
  obtain ⟨r, hrun, rfl, hname, hvalue⟩ := run_of_token htoken hnone
  obtain ⟨s, given, hs, hgives⟩ := runGives_of_run ht hrun
  refine ⟨r, s, given, hrun, hs, hgives, ?_, ?_⟩
  · rw [hname, lastFormulaName_of_steps hgives.steps_eq]
  · rw [← hgives.final_eq]
    exact hvalue

/-- Two formulas of one name and a condition; the last step is the condition. -/
def sharedNames : Algorithm where
  id := "algo"
  name := "Algo"
  description? := none
  valueType := "dimension"
  «variables» := []
  formulas := [⟨"f1", "area", none, [("javascript", ⟨"n + 1", none⟩)]⟩,
    ⟨"f2", "area", none, [("javascript", ⟨"n + 2", none⟩)]⟩]
  conditions := [⟨"c1", "positive", "n > 0"⟩]
  steps := [⟨some .formula, "f1", "first"⟩, ⟨some .formula, "f2", "second"⟩,
    ⟨some .condition, "c1", "third"⟩]
  generation? := some ⟨true, ⟨.int 0, .int 1, .int 1⟩⟩

set_option maxRecDepth 10000 in
/-- The result under the shared name is that of the second formula, and all tokens name
    its step. -/
theorem run_checked_sharedNames :
    sharedNames.problems Settings.default.language = [] ∧
      (∃ r s given, (sharedNames.run Settings.default (.num (.int 1)) [] []).1 = .ok r ∧
        sharedNames.RunGives Settings.default s given r ∧
        r.results.get? "area" = some (.num (.int 3)) ∧ r.final = .num (.int 3)) ∧
      ∃ ts, (sharedNames.tokens Settings.default []).1 = .ok ts ∧ ts.length = 2 ∧
        ∀ t ∈ ts, t.formula = "second" := by
  have hproblems : sharedNames.problems Settings.default.language = [] := by decide
  have hsmall : ∀ k ∈ [0, (1 : Int)], k.natAbs < Number.safeLimit.natAbs := by decide
  have hruns : ∀ k ∈ [0, (1 : Int)], ∃ r,
      (sharedNames.run Settings.default (.num (.int k)) [] []).1 = .ok r ∧
      r.results.get? "area" = some (.num (.int (k + 2))) ∧ r.final = .num (.int (k + 2)) := by
    intro k hk
    rw [run_num (n := .int k) (Number.safeLimit_lt_textLimit (hsmall k hk)) rfl]
    exact ⟨_, rfl, rfl, rfl⟩
  refine ⟨hproblems, ?_, ?_⟩
  · obtain ⟨r, hr, hresult, hfinal⟩ := hruns 1 (by decide)
    obtain ⟨s, given, -, hgives⟩ := (run_checked hproblems).1 _ _ _ _ hr
    exact ⟨r, s, given, hr, hgives, hresult, hfinal⟩
  · have hint : ∀ n ∈ [Number.int 0, .int 1], ∃ k ∈ [0, (1 : Int)], n = .int k := by
      intro n hn
      obtain ⟨k, hk, rfl⟩ := List.mem_map.mp (show n ∈ [0, 1].map Number.int from hn)
      exact ⟨k, hk, rfl⟩
    have htoken : ∀ n ∈ [Number.int 0, .int 1],
        ∃ t, (sharedNames.token Settings.default [] n).1 = .ok t := by
      intro n hn
      obtain ⟨k, hk, rfl⟩ := hint n hn
      obtain ⟨r, hr, -, hfinal⟩ := hruns k hk
      refine (exists_token_iff (.inl ⟨r, hr⟩)).mpr fun q hq => ?_
      rw [hr] at hq
      obtain rfl := Except.ok.inj hq
      have hsum : ∀ k ∈ [0, (1 : Int)], (k + 2).natAbs < Number.safeLimit.natAbs := by decide
      rw [hfinal]
      exact ⟨(Value.hasText_int _).mpr (Number.safeLimit_lt_textLimit (hsum k hk)),
        fun h => absurd h (by decide)⟩
    obtain ⟨ts, htokens⟩ := (exists_tokensOf_iff _ _ _ _).mpr htoken
    have hts : (sharedNames.tokens Settings.default []).1 = .ok ts := by
      rw [tokens_eq_tokensOf rfl rfl values_zero_one]
      exact htokens
    have hall := (tokensOf_eq_ok_iff _ _ _ _ _).mp htokens
    refine ⟨ts, hts, hall.length_eq.symm, fun t ht => ?_⟩
    have hnone : t.error? = none := by
      obtain ⟨i, hi, rfl⟩ := List.mem_iff_getElem.mp ht
      have hlen := hall.length_eq ▸ hi
      obtain ⟨k, hk, hki⟩ := hint _ (List.getElem_mem hlen)
      obtain ⟨r, hr, -⟩ := hruns k hk
      have hti := hall.get hlen hi
      rw [List.get_eq_getElem, hki] at hti
      have hshows := showsRun_of_token (.inl ⟨r, hr⟩) hti
      unfold ShowsRun at hshows
      rw [hr] at hshows
      exact hshows.2.1
    obtain ⟨r, s, given, -, -, hgives, hname, -⟩ := (run_checked hproblems).2 [] ts hts t ht hnone
    rw [hname, ← lastFormulaName_of_steps hgives.steps_eq]
    rfl

end Algorithm
end TokenFormula
