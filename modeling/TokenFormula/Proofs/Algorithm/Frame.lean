import TokenFormula.Proofs.Algorithm.Undefined
import TokenFormula.Proofs.Expr.Footprint
import TokenFormula.Proofs.Expr.Keeps

/-!
# What a step changes

A formula declares a write by an assignment at its root, and nothing else declares
one. But an evaluation writes at every assignment that it completes, wherever it
stands. So a step changes what its tree assigns, and no more than it declares if the
assignments below the root change nothing.

Results:
* `writes_runStep`: every change is a write to a target in the tree of the step.
* `SameBut`: scopes that differ in the binding of one target at most.
* `runStep_frame`: what a step changes if it writes at the root only.
* `runStep_frame_of_writesNothing`: so for a tree without other assignments.
* `not_runStep_frame`: a formula that changes the scope without declaring it.
-/

namespace TokenFormula

/-! ## Scopes -/

namespace Scope

variable {s s' : Scope}

theorem Alike.refl (names : List String) (s : Scope) : Alike names s s :=
  ⟨fun _ => rfl, fun _ => rfl, fun _ _ => rfl, fun _ _ _ _ => rfl⟩

/-- The scopes differ in the one binding that the target resolves to in the first, if at all. -/
def SameBut (target : Value) (s s' : Scope) : Prop :=
  s'.aliases = s.aliases ∧
    match target with
    | .text key => s'.unnamed = s.unnamed ∧
      ∀ name, name ≠ s.resolve key → s'.values.get? name = s.values.get? name
    | key => s'.values = s.values ∧
      ∀ p, p.1 ≠ key → p.1.identical key = false → (p ∈ s'.unnamed ↔ p ∈ s.unnamed)

theorem SameBut.refl (target : Value) (s : Scope) : SameBut target s s := by
  refine ⟨rfl, ?_⟩
  split
  · exact ⟨rfl, fun _ _ => rfl⟩
  · exact ⟨rfl, fun _ _ _ => .rfl⟩

/-- Binding a target changes its binding only. -/
theorem sameBut_bind {target v : Value} (h : Expr.bind target v s = .ok s') :
    SameBut target s s' := by
  unfold Expr.bind at h
  split at h
  · obtain rfl := Except.ok.inj h
    exact ⟨rfl, rfl, fun name hname => Entries.get?_set_of_ne hname v s.values⟩
  · rename_i htext
    split at h
    · obtain rfl := Except.ok.inj h
      refine ⟨rfl, ?_⟩
      split
      · exact absurd rfl (htext _)
      · refine ⟨rfl, fun p hne hkey => ⟨fun hp => ?_, fun hp => mem_writeUnnamed hp hkey⟩⟩
        refine (mem_of_mem_writeUnnamed hp).resolve_right fun hnew => ?_
        exact hnew.1.elim hne (Bool.eq_false_iff.mp hkey)
    · cases h

theorem sameBut_of_bind {target : Value}
    (h : s' = s ∨ ∃ v, Expr.bind target v s = .ok s') : SameBut target s s' := by
  obtain rfl | ⟨v, hv⟩ := h
  · exact .refl target s'
  · exact sameBut_bind hv

end Scope

namespace Algorithm

open Scope
open TokenFormula.Expr (KeepsScope)

variable {a : Algorithm} {settings : Settings} {step : Step} {s : Scope}

/-! ## Writes -/

/-- In every scope a step writes to targets of its tree only. -/
theorem writes_runStep (a : Algorithm) (settings : Settings) (step : Step) (s : Scope) :
    ∃ ws, (a.runStep settings step s).scope = s.writes ws ∧
      ∀ w ∈ ws, ∃ e, a.RunsTree settings step e ∧ w.Hits s.aliases e.assigned := by
  obtain hs | ⟨e, he, hs⟩ := scope_runStep a settings step s
  · exact ⟨[], hs, nofun⟩
  · obtain ⟨-, ⟨ws, hws, hafter, -⟩, -⟩ := Expr.evaluate_footprint e (.refl e.reads s)
    exact ⟨ws, hs.trans hafter, fun w hw => ⟨e, he, hws w hw⟩⟩

/-! ## Declared writes -/

/-- The part of the tree of a step that declares no write: what is assigned at the root of a
    formula, and otherwise the whole tree. -/
def undeclared (step : Step) : Expr → Expr
  | .assign name body note =>
    if step.type? = some .formula then body else .assign name body note
  | e => e

/-- No assignment that the step completes changes the scope, but for one at the root of a
    formula. -/
def WritesAtRoot (a : Algorithm) (settings : Settings) (step : Step) (s : Scope) : Prop :=
  ∀ e, a.RunsTree settings step e → (undeclared step e).KeepsScope s

/-- An assignment to which only its root can write binds its target, or fails before. -/
theorem evaluate_assign_of_keepsScope {name : Value} {body : Expr} {note : Option Note}
    (h : body.KeepsScope s) :
    ((Expr.assign name body note).evaluate s).2 = s ∨
      ∃ v, Expr.bind name v s = .ok ((Expr.assign name body note).evaluate s).2 := by
  cases hn : name.isTruthy with
  | false =>
    left
    rw [Expr.evaluate_assign_unnamed body note s hn]
  | true =>
    rw [Expr.evaluate_assign body note s hn]
    have hbody := Expr.evaluate_of_keepsScope body s h
    cases hb : body.evaluate s with
    | mk outcome t =>
      rw [hb] at hbody
      obtain rfl : t = s := hbody
      cases outcome with
      | error err => exact .inl rfl
      | ok v =>
        rw [Outcome.andThen_ok]
        cases hbind : Expr.bind name v t with
        | error err => exact .inl rfl
        | ok t' => exact .inr ⟨v, hbind⟩

/-- A step without an assignment at the root of a formula leaves the scope. -/
theorem scope_of_noRoot (h : a.WritesAtRoot settings step s)
    (hroot : ∀ name body note, step.type? = some .formula →
      ¬ a.RunsTree settings step (.assign name body note)) :
    (a.runStep settings step s).scope = s := by
  obtain hs | ⟨e, he, hs⟩ := scope_runStep a settings step s
  · exact hs
  · have hkeeps : e.KeepsScope s := by
      have hkeeps := h e he
      cases e with
      | assign name body note =>
        rw [undeclared, if_neg fun htype => hroot name body note htype he] at hkeeps
        exact hkeeps
      | _ => exact hkeeps
    exact hs.trans (Expr.evaluate_of_keepsScope e s hkeeps)

/-- A formula with an assignment at its root binds its target, or fails before. -/
theorem scope_of_root {name : Value} {body : Expr} {note : Option Note}
    (h : a.WritesAtRoot settings step s) (htype : step.type? = some .formula)
    (hassign : a.RunsTree settings step (.assign name body note)) :
    (a.runStep settings step s).scope = s ∨
      ∃ v, Expr.bind name v s = .ok (a.runStep settings step s).scope := by
  obtain hs | ⟨e, he, hs⟩ := scope_runStep a settings step s
  · exact .inl hs
  · obtain rfl := runsTree_unique hassign he
    have hbody := h _ hassign
    rw [undeclared, if_pos htype] at hbody
    rw [hs]
    exact evaluate_assign_of_keepsScope hbody

/-- Let no assignment that a step completes change the scope, other than one at the root of a
    formula. If there is none at the root, also in every condition, the step leaves the scope as
    it was. If there is one, the step binds its target, or leaves the scope where it fails before,
    and so it changes the one binding that the target resolves to at most. -/
theorem runStep_frame (h : a.WritesAtRoot settings step s) :
    ((∀ name body note, step.type? = some .formula →
        ¬ a.RunsTree settings step (.assign name body note)) →
      (a.runStep settings step s).scope = s) ∧
    ∀ name body note, step.type? = some .formula →
      a.RunsTree settings step (.assign name body note) →
      ((a.runStep settings step s).scope = s ∨
        ∃ v, Expr.bind name v s = .ok (a.runStep settings step s).scope) ∧
      SameBut name s (a.runStep settings step s).scope := by
  refine ⟨scope_of_noRoot h, fun name body note htype hassign => ?_⟩
  have hbind := scope_of_root h htype hassign
  exact ⟨hbind, sameBut_of_bind hbind⟩

/-- In particular a step whose tree assigns at the root of a formula only changes no more than
    it declares, in every scope. -/
theorem runStep_frame_of_writesNothing
    (h : ∀ e, a.RunsTree settings step e → (undeclared step e).WritesNothing = true)
    (s : Scope) :
    ((∀ name body note, step.type? = some .formula →
        ¬ a.RunsTree settings step (.assign name body note)) →
      (a.runStep settings step s).scope = s) ∧
    ∀ name body note, step.type? = some .formula →
      a.RunsTree settings step (.assign name body note) →
      ((a.runStep settings step s).scope = s ∨
        ∃ v, Expr.bind name v s = .ok (a.runStep settings step s).scope) ∧
      SameBut name s (a.runStep settings step s).scope := by
  have hroot : a.WritesAtRoot settings step s := fun e he =>
    Expr.keepsScope_of_writesNothing _ (h e he) s
  refine ⟨scope_of_noRoot hroot, fun name body note htype hassign => ?_⟩
  have hbind := scope_of_root hroot htype hassign
  exact ⟨hbind, sameBut_of_bind hbind⟩

/-- A formula that assigns the variable `wide` under its alias. -/
def setsWide : Algorithm :=
  ofTexts "dimension" [] [("F1", "v1 = deep")]

/-- The variable `wide` with the alias `v1`, and another variable. -/
def wideScope : Scope where
  values := [("wide", .bool false), ("deep", .bool true)]
  aliases := [("v1", "wide")]
  unnamed := []

/-- The formula changes the value of `wide` and nothing else. -/
theorem runStep_frame_wide :
    (setsWide.runStep Settings.default ⟨some .formula, "F1", "F1"⟩ wideScope).scope.get?
        "wide" = some (.bool true) ∧
      SameBut (.text "v1") wideScope
        (setsWide.runStep Settings.default ⟨some .formula, "F1", "F1"⟩ wideScope).scope := by
  obtain ⟨note, htree⟩ : ∃ note, setsWide.RunsTree Settings.default
      ⟨some .formula, "F1", "F1"⟩ (.assign (.text "v1") (.var (.text "deep") none) note) :=
    ⟨_, _, rfl, rfl⟩
  have hwrites : setsWide.WritesAtRoot Settings.default ⟨some .formula, "F1", "F1"⟩
      wideScope := by
    intro e he
    rw [runsTree_unique htree he]
    exact Expr.keepsScope_of_writesNothing _ rfl wideScope
  exact ⟨rfl, ((runStep_frame hwrites).2 _ _ _ rfl htree).2⟩

/-- The assignment `(x = 5)` in parentheses is none at the root of its formula, and it changes the
    scope nevertheless. -/
theorem not_runStep_frame :
    ¬ ∀ (a : Algorithm) (settings : Settings) (step : Step) (s : Scope),
      (∀ name body note, step.type? = some .formula →
        ¬ a.RunsTree settings step (.assign name body note)) →
      (a.runStep settings step s).scope = s := by
  intro h
  obtain ⟨note, htree⟩ : ∃ note, readsParenthesized.RunsTree Settings.default
      ⟨some .formula, "F1", "F1"⟩ (.group (.assign (.text "x")
        (.literal (some (.num (.int 5))) false none) none) note) :=
    ⟨_, _, rfl, rfl⟩
  have hscope := h readsParenthesized Settings.default ⟨some .formula, "F1", "F1"⟩ .empty
    fun name body note' _ hassign => by cases runsTree_unique htree hassign
  have hbound : (readsParenthesized.runStep Settings.default ⟨some .formula, "F1", "F1"⟩
      .empty).scope.has "x" = true := rfl
  rw [hscope] at hbound
  cases hbound

end Algorithm
end TokenFormula
