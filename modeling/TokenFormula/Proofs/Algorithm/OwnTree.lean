import Mathlib.Data.List.Forall2
import TokenFormula.Proofs.Algorithm.Step
import TokenFormula.Proofs.Expr.Rebuild

/-!
# Storing the own trees of formulas

A formula has a stored tree or a text. Storing the tree of the text itself changes
no run: the tree is rebuilt as it was and found valid, or the text was not read and
the tree is refused. Only the message of the refusal tells the two apart.

Results:
* `storedTree_validator`: the validator plays no part in stored trees.
* `storedTree_entries`: the own tree of a text, when it is stored.
* `tree_withOwnTree`: the tree of a formula with its own tree stored.
* `runSteps_alike`: steps of algorithms whose formulas have the same trees.
* `run_withOwnTree`: the run of an algorithm with an own tree stored.
-/

namespace TokenFormula

/-! ## Storing a tree -/

/-- The entries of a tree as plain data. -/
def Expr.entries (e : Expr) : Entries Value :=
  match e.toData with
  | .dict entries => entries
  | _ => []

/-- The text with its own tree stored, unless one is stored already. -/
def FormulaText.withOwnTree (x : FormulaText) : FormulaText :=
  { x with tree? := x.tree?.or (some (Expr.parse x.source).entries) }

/-- The formula with the own tree of its text in a language stored. -/
def Formula.withOwnTree (f : Formula) (language : String) : Formula :=
  { f with expressions := f.expressions.map fun p =>
      if p.1 = language then (p.1, p.2.withOwnTree) else p }

/-- The algorithm with the own tree of the formula at a place stored. -/
def Algorithm.withOwnTree (a : Algorithm) (i : Nat) (language : String) : Algorithm :=
  { a with formulas := a.formulas.modify i (·.withOwnTree language) }

theorem Expr.toData_eq_entries {e : Expr} (h : e.isAbsent = false) :
    e.toData = .dict e.entries := by
  cases e with
  | absent => cases h
  | _ => rfl

/-- A stored tree is rebuilt or refused for its errors only, which no validator changes. -/
theorem storedTree_validator (v v' : Validator) (entries : Entries Value) :
    storedTree v entries = storedTree v' entries := by
  unfold storedTree
  cases Expr.ofData (.dict entries) with
  | error f => rfl
  | ok e =>
    have herrors := Expr.errors_validate v v' e
    dsimp only
    generalize v.validate e = r at herrors ⊢
    generalize v'.validate e = r' at herrors ⊢
    match r, r', herrors with
    | .error f, .error _, rfl => rfl
    | .ok fs, .ok gs, herrors =>
      have hfs : Findings.of .error fs = Findings.of .error gs := Except.ok.inj herrors
      dsimp only
      rw [hfs]

/-- The own tree of a text is rebuilt, or refused where the text is not read. -/
theorem storedTree_entries (v : Validator) (source : String) : ∃ errors,
    storedTree v (Expr.parse source).entries =
      .ok (if (Expr.parse source).notedErrors.isEmpty then .ok (Expr.parse source)
        else .error (.invalid errors)) := by
  obtain ⟨fs, hfs, hvalid⟩ := Expr.exists_validate_parse v source
  refine ⟨(Findings.of .error fs).map Finding.text, ?_⟩
  have hpresent := (Expr.spelled_parse source).root.1.1
  rw [storedTree, ← Expr.toData_eq_entries hpresent, Expr.ofData_toData]
  dsimp only
  rw [hfs]
  dsimp only
  rw [Findings.valid, ← List.isEmpty_iff, Bool.coe_iff_coe] at hvalid
  rw [hvalid]

/-! ## Trees that come to the same -/

/-- The trees are the same, or both are refused. -/
inductive SameTree : Sourced Expr → Sourced Expr → Prop
  | refl (t : Sourced Expr) : SameTree t t
  | refused (e e' : SourceError) : SameTree (.ok (.error e)) (.ok (.error e'))

/-- The formulas have the same id and name, and their trees come to the same. -/
structure Formula.Alike (settings : Settings) (f g : Formula) : Prop where
  id_eq : g.id = f.id
  name_eq : g.name = f.name
  tree : SameTree (f.tree settings) (g.tree settings)

theorem Formula.Alike.refl (settings : Settings) (f : Formula) : f.Alike settings f :=
  ⟨rfl, rfl, .refl _⟩

/-- The stored tree of a text, or the tree that the text is read as. -/
def FormulaText.tree (x : FormulaText) (v : Validator) : Sourced Expr :=
  match x.tree? with
  | some entries => storedTree v entries
  | none => .ok (parseChecked x.source)

/-- Storing the own tree of a text gives the same tree, or both are refused. -/
theorem FormulaText.sameTree_withOwnTree (x : FormulaText) (v : Validator) :
    SameTree (x.tree v) (x.withOwnTree.tree v) := by
  obtain ⟨source, tree?⟩ := x
  cases tree? with
  | some entries => exact .refl _
  | none =>
    obtain ⟨errors, h⟩ := storedTree_entries v source
    show SameTree (.ok (parseChecked source)) (storedTree v (Expr.parse source).entries)
    rw [h, parseChecked]
    split
    · exact .refl _
    · exact .refused _ _

theorem Formula.expression?_withOwnTree (f : Formula) (language other : String) :
    (f.withOwnTree language).expression? other =
      (f.expression? other).map fun x => if other = language then x.withOwnTree else x := by
  unfold expression? withOwnTree
  dsimp only
  induction f.expressions with
  | nil => rfl
  | cons p rest ih =>
    obtain ⟨key, x⟩ := p
    have hkey : (if key = language then (key, x.withOwnTree) else (key, x)) =
        (key, if key = language then x.withOwnTree else x) := by
      split <;> rfl
    rw [List.map_cons, hkey, Entries.get?_cons, Entries.get?_cons]
    split
    · rename_i h
      rw [h, Option.map_some]
    · exact ih

theorem Formula.tree_of_none {f : Formula} {settings : Settings}
    (h : f.expression? settings.language = none) :
    f.tree settings = .ok (.error (.noExpression settings.language f.name)) := by
  rw [tree, h]

theorem Formula.tree_of_some {f : Formula} {settings : Settings} {x : FormulaText}
    (h : f.expression? settings.language = some x) :
    f.tree settings = x.tree settings.validator := by
  rw [tree, h]
  rfl

theorem Formula.alike_withOwnTree (settings : Settings) (f : Formula) (language : String) :
    f.Alike settings (f.withOwnTree language) := by
  refine ⟨rfl, rfl, ?_⟩
  have hexpression := f.expression?_withOwnTree language settings.language
  cases hx : f.expression? settings.language with
  | none =>
    rw [hx] at hexpression
    rw [tree_of_none hx, tree_of_none hexpression]
    exact .refl _
  | some x =>
    rw [hx, Option.map_some] at hexpression
    rw [tree_of_some hx, tree_of_some hexpression]
    split
    · exact x.sameTree_withOwnTree settings.validator
    · exact .refl _

/-! ## Algorithms with trees that come to the same -/

namespace Algorithm

/-- The results are the same, or both are failures at the same step. -/
inductive SameEnd {α : Type} : StepResult α → StepResult α → Prop
  | refl (r : StepResult α) : SameEnd r r
  | failed (f : StepFailure) (message : String) (s : Scope) (warnings : List String) :
    SameEnd ⟨.error (.step f), s, warnings⟩
      ⟨.error (.step { f with message := message }), s, warnings⟩

theorem SameEnd.warn {α : Type} {r r' : StepResult α} (h : SameEnd r r')
    (warnings : List String) :
    SameEnd { r with warnings := warnings ++ r.warnings }
      { r' with warnings := warnings ++ r'.warnings } := by
  cases h with
  | refl => exact .refl _
  | failed f message s ws => exact .failed f message s _

section Alike

variable {a : Algorithm} {settings : Settings} {fs : List Formula}

/-- The formulas with an id come to the same. -/
theorem formula?_alike (h : List.Forall₂ (Formula.Alike settings) a.formulas fs) (id : String) :
    Option.Rel (Formula.Alike settings) (a.formula? id)
      (({ a with formulas := fs } : Algorithm).formula? id) := by
  unfold formula?
  generalize a.formulas = gs at h ⊢
  induction h with
  | nil => exact .none
  | cons hfg _ ih =>
    rw [List.find?_cons, List.find?_cons, hfg.id_eq]
    split
    · exact .some hfg
    · exact ih

theorem targetName_alike (h : List.Forall₂ (Formula.Alike settings) a.formulas fs) (s : Step) :
    ({ a with formulas := fs } : Algorithm).targetName s = a.targetName s := by
  unfold targetName
  cases s.type? with
  | none => rfl
  | some type =>
    cases type with
    | condition => rfl
    | formula =>
      have hid := formula?_alike h s.id
      generalize a.formula? s.id = f? at hid ⊢
      generalize Algorithm.formula? _ s.id = g? at hid ⊢
      cases hid with
      | none => rfl
      | some hfg => exact congrArg (fun name => (some name).getD s.name) hfg.name_eq

/-- A step ends the same way. -/
theorem runStep_alike (h : List.Forall₂ (Formula.Alike settings) a.formulas fs) (step : Step)
    (s : Scope) :
    SameEnd (a.runStep settings step s)
      (({ a with formulas := fs } : Algorithm).runStep settings step s) := by
  unfold runStep target
  dsimp only
  cases step.type? with
  | none => exact .refl _
  | some type =>
    cases type with
    | condition => exact .refl _
    | formula =>
      have hid := formula?_alike h step.id
      generalize a.formula? step.id = f? at hid ⊢
      generalize Algorithm.formula? _ step.id = g? at hid ⊢
      cases hid with
      | none => exact .refl _
      | some hfg =>
        rename_i f g
        obtain ⟨-, hname, htree⟩ := hfg
        dsimp only
        rw [hname]
        generalize f.tree settings = t at htree ⊢
        generalize g.tree settings = t' at htree ⊢
        cases htree with
        | refl => exact .refl _
        | refused e e' => exact .failed _ _ s []

/-- Steps end the same way. -/
theorem runSteps_alike (h : List.Forall₂ (Formula.Alike settings) a.formulas fs)
    (steps : List Step) : ∀ (p : Progress) (s : Scope),
    SameEnd (a.runSteps settings steps p s)
      (({ a with formulas := fs } : Algorithm).runSteps settings steps p s) := by
  induction steps with
  | nil => exact fun p s => .refl _
  | cons step rest ih =>
    intro p s
    have hadvance : ∀ v, ({ a with formulas := fs } : Algorithm).advance step v p =
        a.advance step v p := by
      intro v
      rw [advance, advance, targetName_alike h]
    have hstep := runStep_alike h step s
    rw [runSteps, runSteps]
    generalize a.runStep settings step s = r at hstep ⊢
    generalize Algorithm.runStep _ settings step s = r' at hstep ⊢
    cases hstep with
    | failed f message s ws => exact .failed f message s ws
    | refl =>
      obtain ⟨_ | _ | v, s, ws⟩ := r
      · exact .refl _
      · exact (ih p s).warn ws
      · dsimp only
        rw [hadvance]
        exact (ih (a.advance step v p) s).warn ws

end Alike

theorem forall₂_modify {α : Type} {r : α → α → Prop} {g : α → α} (hrefl : ∀ x, r x x)
    (hg : ∀ x, r x (g x)) (xs : List α) : ∀ i, List.Forall₂ r xs (xs.modify i g) := by
  induction xs with
  | nil => intro i; cases i <;> exact .nil
  | cons x rest ih =>
    intro i
    cases i with
    | zero => exact .cons (hg x) (List.forall₂_same.mpr fun y _ => hrefl y)
    | succ i => exact .cons (hrefl x) (ih i)

/-- Storing the own tree of a formula leaves the run as it is, whatever the source
    of the formula: the result is equal, or both runs fail at the same step with
    the same iteration value, and the warnings are equal. -/
theorem run_withOwnTree (a : Algorithm) (settings : Settings) (i : Nat) (language : String)
    (iteration : Value) (context : Entries Value) (modes : Modes) :
    ((a.withOwnTree i language).run settings iteration context modes =
      a.run settings iteration context modes) ∨
    ∃ f message warnings,
      a.run settings iteration context modes = (.error (.step f), warnings) ∧
      (a.withOwnTree i language).run settings iteration context modes =
        (.error (.step { f with message := message }), warnings) := by
  have hformulas : List.Forall₂ (Formula.Alike settings) a.formulas
      (a.formulas.modify i (·.withOwnTree language)) :=
    forall₂_modify (Formula.Alike.refl settings)
      (fun f => f.alike_withOwnTree settings language) a.formulas i
  have hscope : (a.withOwnTree i language).recordedScope iteration context modes =
      a.recordedScope iteration context modes := rfl
  unfold run
  rw [hscope]
  cases a.recordedScope iteration context modes with
  | error f => exact .inl rfl
  | ok s =>
    have hsteps : SameEnd (a.runSteps settings a.steps ⟨[], .null⟩ s)
        ((a.withOwnTree i language).runSteps settings (a.withOwnTree i language).steps
          ⟨[], .null⟩ s) :=
      runSteps_alike hformulas a.steps ⟨[], .null⟩ s
    dsimp only
    generalize a.runSteps settings a.steps ⟨[], .null⟩ s = r at hsteps ⊢
    generalize Algorithm.runSteps _ settings _ ⟨[], .null⟩ s = r' at hsteps ⊢
    cases hsteps with
    | refl => exact .inl rfl
    | failed f message s ws => exact .inr ⟨f, message, ws, rfl, rfl⟩

end Algorithm
end TokenFormula
