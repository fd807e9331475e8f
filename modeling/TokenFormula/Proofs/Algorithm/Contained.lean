import TokenFormula.Proofs.Algorithm.Undefined
import TokenFormula.Proofs.Expr.Origin

/-!
# Steps out of which no fault gets

What goes wrong when a stored tree is rebuilt is laid to its step, and so is every
error of the evaluation. The faults that are not come from three places: from the
check of a stored tree, from a node of the tree out of which one gets, and from a
value that a formula assigns and that cannot be shown.

Results:
* `Expr.ofData_fault`: faults of data that cannot be rebuilt.
* `Formula.exists_tree_iff`: the stored trees whose faults are laid to their step.
* `settles_iff`: the steps out of which no fault gets.
-/

namespace TokenFormula

/-! ## Stored trees -/

/-- The fault is one that is laid to a stored tree which cannot be rebuilt. -/
def Fault.IsOfRebuild (f : Fault) : Prop :=
  f.family = .value ∨ f.family = .type

namespace Expr

open Fault (IsOfRebuild)

theorem kindOf_fault (entries : Entries Value) : FailsIn IsOfRebuild (kindOf entries) := by
  have hrefused : FailsIn IsOfRebuild (do
      throw (.unknownNode (← (Value.ofOption (entries.get? "type")).display)) :
        Except Fault Kind) :=
    ((Value.display_fault _).mono fun _ h => h ▸ .inl rfl).bind fun _ => .error (.inl rfl)
  unfold kindOf
  dsimp only
  split
  · split
    · exact .ok _
    · exact hrefused
  · split
    · exact hrefused
    · exact .error (.inr rfl)

theorem elements_fault (v : Value) : FailsIn IsOfRebuild (elements v) := by
  unfold elements
  split
  · exact .ok _
  · exact .ok _
  · exact .ok _
  · split
    · exact .error (.inr rfl)
    · exact .ok _

theorem noteOf_fault (entries : Entries Value) : FailsIn IsOfRebuild (noteOf entries) := by
  unfold noteOf
  split
  · exact (elements_fault _).bind fun _ => .ok _
  · exact .ok _

mutual

/-- Data that cannot be rebuilt fail for a value or a type. -/
theorem ofData_fault : (v : Value) → FailsIn IsOfRebuild (ofData v)
  | .null => by
    rw [ofData]
    exact .ok _
  | .dict entries => by
    rw [ofData]
    refine (kindOf_fault entries).bind fun kind => (noteOf_fault entries).bind fun note => ?_
    cases kind with
    | binary =>
      exact (childOf_fault entries "left").bind fun _ =>
        (childOf_fault entries "right").bind fun _ => .ok _
    | unary => exact (childOf_fault entries "operand").bind fun _ => .ok _
    | var | literal => exact .ok _
    | call => exact (argumentsOf_fault entries).bind fun _ => .ok _
    | assign => exact (childOf_fault entries "expression").bind fun _ => .ok _
    | group => exact (childOf_fault entries "body").bind fun _ => .ok _
  | .bool _ | .num _ | .text _ | .list _ | .function _ => by
    rw [ofData]
    · exact .error (.inl rfl)
    all_goals exact nofun
termination_by v => (sizeOf v, 0)

theorem childOf_fault (entries : Entries Value) (key : String) :
    FailsIn IsOfRebuild (childOf entries key) := by
  rw [childOf]
  split
  · rename_i v h
    have := sizeOf_lt_of_get? h
    exact ofData_fault v
  · exact .ok _
termination_by (sizeOf entries, 0)
decreasing_by
  exact Prod.Lex.left _ _ this

theorem argumentsOf_fault (entries : Entries Value) :
    FailsIn IsOfRebuild (argumentsOf entries) := by
  rw [argumentsOf]
  split
  · rename_i items h
    have := sizeOf_lt_of_get? h
    exact ofItems_fault items
  · refine (elements_fault _).bind fun vs => ?_
    split
    · exact .ok _
    · exact .error (.inl rfl)
  · exact .ok _
termination_by (sizeOf entries, 0)
decreasing_by
  simp only [Value.list.sizeOf_spec] at this
  exact Prod.Lex.left _ _ (by omega)

theorem ofItems_fault : (items : List Value) → FailsIn IsOfRebuild (ofItems items)
  | [] => by
    rw [ofItems]
    exact .ok _
  | v :: rest => by
    rw [ofItems]
    exact (ofData_fault v).bind fun _ => (ofItems_fault rest).bind fun _ => .ok _
termination_by items => (sizeOf items, 1)

end

end Expr

theorem unreadableTree_of_isOfRebuild {f : Fault} (h : f.IsOfRebuild) :
    unreadableTree f = .ok (.unreadable f) := by
  unfold unreadableTree
  obtain h | h := h <;> rw [h]

/-- Only validation makes a stored tree fail with a fault that is not laid to its step. -/
theorem exists_storedTree_iff (v : Validator) (entries : Entries Value) :
    (∃ r, storedTree v entries = .ok r) ↔ ∀ e, Expr.ofData (.dict entries) = .ok e →
      e.Every Expr.VariableNamed ∧ ∀ m ∈ e.notedErrors, m.HasText := by
  unfold storedTree
  cases hdata : Expr.ofData (.dict entries) with
  | error f =>
    refine iff_of_true ?_ nofun
    dsimp only
    rw [unreadableTree_of_isOfRebuild (Expr.ofData_fault _ f hdata)]
    exact ⟨_, rfl⟩
  | ok e =>
    have hvalidate := Expr.exists_validate_iff v e
    dsimp only
    cases hv : v.validate e with
    | error f =>
      rw [hv] at hvalidate
      refine iff_of_false nofun fun h => ?_
      obtain ⟨fs, hfs⟩ := hvalidate.mpr (h e rfl)
      cases hfs
    | ok fs =>
      refine iff_of_true ⟨_, rfl⟩ fun e' he => ?_
      obtain rfl := Except.ok.inj he
      exact hvalidate.mp ⟨fs, hv⟩

/-- The tree that is stored for the formula, if there is one, can be validated or cannot be
    rebuilt. -/
def Formula.Checkable (f : Formula) (settings : Settings) : Prop :=
  ∀ expression entries e, f.expression? settings.language = some expression →
    expression.tree? = some entries → Expr.ofData (.dict entries) = .ok e →
    e.Every Expr.VariableNamed ∧ ∀ m ∈ e.notedErrors, m.HasText

theorem Formula.exists_tree_iff (f : Formula) (settings : Settings) :
    (∃ r, f.tree settings = .ok r) ↔ f.Checkable settings := by
  unfold Formula.tree Formula.Checkable
  cases f.expression? settings.language with
  | none => exact iff_of_true ⟨_, rfl⟩ nofun
  | some expression =>
    dsimp only
    cases htree : expression.tree? with
    | none =>
      refine iff_of_true ⟨_, rfl⟩ fun x entries e hx hentries => ?_
      obtain rfl := Option.some.inj hx
      rw [htree] at hentries
      cases hentries
    | some entries =>
      refine (exists_storedTree_iff settings.validator entries).trans ⟨fun h => ?_, fun h => ?_⟩
      · intro x entries' e hx hentries he
        obtain rfl := Option.some.inj hx
        rw [htree] at hentries
        obtain rfl := Option.some.inj hentries
        exact h e he
      · exact fun e he => h expression entries e rfl htree he

/-! ## Steps -/

/-- A value that a formula assigns at its root cannot be recorded if it or the name cannot be
    shown. -/
theorem recordAssigned_error_iff (tree : Sourced Expr) (v : Value) :
    (∃ f, recordAssigned tree v = .error f) ↔
      ∃ name body note, tree = .ok (.ok (.assign name body note)) ∧
        ¬ (name.HasText ∧ v.HasText) := by
  unfold recordAssigned
  split
  · rename_i name body note
    rw [exists_error_iff, exists_bind_bind_pure_iff, Value.exists_plain_iff,
      Value.exists_display_iff]
    constructor
    · exact fun h => ⟨name, body, note, rfl, h⟩
    · rintro ⟨name', body', note', htree, h⟩
      cases htree
      exact h
  · rename_i hne
    refine iff_of_false nofun ?_
    rintro ⟨name, body, note, rfl, -⟩
    exact hne name body note rfl

namespace Algorithm

variable {a : Algorithm} {settings : Settings} {step : Step} {s : Scope} {t : Target}

theorem sourcedOutcome_error_iff (r : Except EvalError Value) :
    (∃ f, sourcedOutcome r = .error f) ↔ ∃ f, r = .error (.escaped f) := by
  cases r with
  | ok v => exact iff_of_false nofun nofun
  | error err => cases err <;> simp [sourcedOutcome]

theorem eq_ok_of_sourcedOutcome {r : Except EvalError Value} {v : Value}
    (h : sourcedOutcome r = .ok (.ok v)) : r = .ok v := by
  unfold sourcedOutcome at h
  split at h <;> cases h
  rfl

theorem evaluateSourced_error_iff (tree : Sourced Expr) (s : Scope) :
    (∃ f, (evaluateSourced tree s).1 = .error f) ↔ (∃ f, tree = .error f) ∨
      ∃ e, tree = .ok (.ok e) ∧ ∃ e' t, e.Visits s e' t ∧ e'.Strays t := by
  match tree with
  | .error f => exact iff_of_true ⟨f, rfl⟩ (.inl ⟨f, rfl⟩)
  | .ok (.error err) => exact iff_of_false nofun (by simp)
  | .ok (.ok e) =>
    rw [evaluateSourced_tree, sourcedOutcome_error_iff, Expr.escapes_iff]
    simp

/-- The tree of a step cannot be checked if it is the stored tree of a formula. -/
theorem tree_error_iff (ht : a.target settings step = .ok t) : (∃ f, t.tree = .error f) ↔
    step.type? = some .formula ∧ ∃ f, a.formula? step.id = some f ∧ ¬ f.Checkable settings := by
  obtain ⟨htype, f, hf, rfl⟩ | ⟨htype, c, -, rfl⟩ := target_cases ht
  · dsimp only
    rw [exists_error_iff, f.exists_tree_iff, htype, hf]
    simp
  · refine iff_of_false nofun ?_
    rw [htype]
    exact nofun

/-- The value of a step cannot be recorded if a formula assigns it at its root. -/
theorem result_error_iff (ht : a.target settings step = .ok t) (v : Value) :
    (∃ f, t.result v = .error f) ↔ step.type? = some .formula ∧
      ∃ name body note, t.tree = .ok (.ok (.assign name body note)) ∧
        ¬ (name.HasText ∧ v.HasText) := by
  obtain ⟨htype, f, -, rfl⟩ | ⟨htype, c, -, rfl⟩ := target_cases ht
  · rw [recordAssigned_error_iff, htype, and_iff_right rfl]
  · refine iff_of_false nofun ?_
    rw [htype]
    exact nofun

theorem runStep_escapes_iff (ht : a.target settings step = .ok t) :
    (∃ f, (a.runStep settings step s).outcome = .error (.escaped f)) ↔
      (∃ f, (evaluateSourced t.tree s).1 = .error f) ∨
        ∃ v, (evaluateSourced t.tree s).1 = .ok (.ok v) ∧ ∃ f, t.result v = .error f := by
  unfold runStep
  rw [ht]
  dsimp only
  split <;> rename_i he <;> rw [he]
  · simp
  · simp
  · split <;> simp_all

/-- No fault gets out of the step: the tree that is stored for it is checked without a fault,
    the evaluation comes to no node out of which one gets, and what a formula assigns at its
    root can be shown. -/
structure Contained (a : Algorithm) (settings : Settings) (step : Step) (s : Scope) : Prop where
  checkable : step.type? = some .formula → ∀ f, a.formula? step.id = some f →
    f.Checkable settings
  evaluable : ∀ e, a.RunsTree settings step e → ∀ e' t, e.Visits s e' t → ¬ e'.Strays t
  shown : step.type? = some .formula → ∀ name body note v,
    a.RunsTree settings step (.assign name body note) →
    ((Expr.assign name body note).evaluate s).1 = .ok v → name.HasText ∧ v.HasText

/-- The steps out of which no fault gets. -/
theorem settles_iff : (a.runStep settings step s).Settles ↔ a.Contained settings step s := by
  cases ht : a.target settings step with
  | error warning =>
    -- A step that is skipped has no tree, and refers to no formula.
    have hnone : ∀ t, a.target settings step ≠ .ok t := fun t h => by
      rw [ht] at h
      cases h
    refine iff_of_true ?_ ⟨?_, ?_, ?_⟩
    · unfold runStep
      rw [ht]
      exact nofun
    · intro htype f hf
      have htarget : a.hasTarget step = true := by
        rw [hasTarget, htype]
        simp [hf]
      obtain ⟨t, h⟩ := (exists_target_iff settings).mpr htarget
      exact absurd h (hnone t)
    · rintro e ⟨t, h, -⟩
      exact absurd h (hnone t)
    · rintro - name body note v ⟨t, h, -⟩
      exact absurd h (hnone t)
  | ok t =>
    unfold StepResult.Settles
    rw [← not_exists, runStep_escapes_iff ht, evaluateSourced_error_iff, tree_error_iff ht]
    simp only [result_error_iff ht]
    constructor
    · intro hno
      refine ⟨fun htype f hf => ?_, ?_, ?_⟩
      · by_contra hcheck
        exact hno (.inl (.inl ⟨htype, f, hf, hcheck⟩))
      · rintro e ⟨t', ht', htree⟩ e' u hv hs
        obtain rfl := Except.ok.inj (ht.symm.trans ht')
        exact hno (.inl (.inr ⟨e, htree, e', u, hv, hs⟩))
      · rintro htype name body note v ⟨t', ht', htree⟩ hv
        obtain rfl := Except.ok.inj (ht.symm.trans ht')
        by_contra hshown
        refine hno (.inr ⟨v, ?_, htype, name, body, note, htree, hshown⟩)
        rw [htree, evaluateSourced_tree, hv]
        rfl
    · rintro hc ((⟨htype, f, hf, hno⟩ | ⟨e, htree, e', u, hv, hs⟩) |
        ⟨v, hv, htype, name, body, note, htree, hno⟩)
      · exact hno (hc.checkable htype f hf)
      · exact hc.evaluable e ⟨t, ht, htree⟩ e' u hv hs
      · rw [htree, evaluateSourced_tree] at hv
        exact hno (hc.shown htype name body note v ⟨t, ht, htree⟩ (eq_ok_of_sourcedOutcome hv))

end Algorithm
end TokenFormula
