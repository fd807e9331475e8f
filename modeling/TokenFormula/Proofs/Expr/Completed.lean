import TokenFormula.Proofs.Expr.Origin

/-!
# Assignments that an evaluation completes

An evaluation changes the scope by the assignments that it completes, and by nothing
else. So it keeps what all of these keep. A binding to a value that is no text stays for
good, so that there is none at the end just if none was made.

Results:
* `Visits.trans`: what an evaluation comes to inside one to which it comes.
* `Completes`, `evaluate_keeps`: what all completed assignments keep.
* `Stable.after_visits`: what all writes keep, from a place inside to the end.
* `unnamed_evaluate_iff`: the evaluations that bind texts only.
-/

namespace TokenFormula

open Outcome

/-- What the first part of a sequence leaves and the second keeps, the sequence leaves. -/
theorem Outcome.andThen_keeps {α β : Type} {P : Scope → Prop} {r : Outcome α}
    {k : α → Scope → Outcome β} (h : P r.2) (hk : ∀ a s, r = (.ok a, s) → P s → P (k a s).2) :
    P (r.andThen k).2 := by
  match r, h, hk with
  | (.ok a, s), h, hk => exact hk a s rfl h
  | (.error e, s), h, _ => exact h

namespace Expr

variable {P : Scope → Prop} {e e' e'' : Expr} {s t t' t₁ t₂ : Scope} {name : Value}

/-- An evaluation comes to where those come to which it comes. -/
theorem Visits.trans (h : e.Visits s e' t) (h' : e'.Visits t e'' t') : e.Visits s e'' t' := by
  induction h with
  | here => exact h'
  | group note _ ih => exact .group note (ih h')
  | operand note hc _ ih => exact .operand note hc (ih h')
  | left note hc ho _ ih => exact .left note hc ho (ih h')
  | right note hc ho hl hd _ ih => exact .right note hc ho hl hd (ih h')
  | value note hn _ ih => exact .value note hn (ih h')
  | argument note hn hf hb _ ih => exact .argument note hn hf hb (ih h')

/-- The evaluation of a tree completes an assignment to a value, which leads from one scope
    to another. -/
inductive Completes (e : Expr) (s : Scope) : Value → Scope → Scope → Prop
  | intro {name v : Value} {body : Expr} {note : Option Note} {t t₁ t₂ : Scope}
    (hv : e.Visits s (assign name body note) t) (hn : name.isTruthy = true)
    (hb : body.evaluate t = (.ok v, t₁)) (h : bind name v t₁ = .ok t₂) : Completes e s name t₁ t₂

theorem Completes.of_visits (h : e.Visits s e' t) (hc : e'.Completes t name t₁ t₂) :
    e.Completes s name t₁ t₂ := by
  obtain ⟨hv, hn, hb, hbind⟩ := hc
  exact ⟨h.trans hv, hn, hb, hbind⟩

/-- The evaluation of one of the arguments completes the assignment. -/
def ArgumentsComplete (args : List Expr) (s : Scope) (name : Value) (t₁ t₂ : Scope) : Prop :=
  ∃ before arg after vs s₁, args = before ++ arg :: after ∧
    evaluateArguments before s = (.ok vs, s₁) ∧ arg.Completes s₁ name t₁ t₂

mutual

/-- What each assignment keeps that an evaluation completes, the evaluation keeps. -/
theorem evaluate_keeps : (e : Expr) → (s : Scope) →
    (∀ name t₁ t₂, e.Completes s name t₁ t₂ → P t₁ → P t₂) → P s → P (e.evaluate s).2
  | absent, s, _, hs => by
    rw [evaluate_absent]
    exact hs
  | literal v fallback note, s, _, hs => by
    rw [evaluate_literal]
    exact hs
  | var name note, s, _, hs => by
    rw [evaluate_var]
    exact hs
  | group body note, s, h, hs => by
    rw [evaluate_group]
    exact evaluate_keeps body s
      (fun name t₁ t₂ hc => h name t₁ t₂ (hc.of_visits (.group note (.here ..)))) hs
  | unary op e note, s, h, hs => by
    cases hc : e.isAbsent || !op.isTruthy with
    | true =>
      rw [evaluate_unary_incomplete note s hc]
      exact hs
    | false =>
      have he := evaluate_keeps e s (fun name t₁ t₂ hcomp =>
        h name t₁ t₂ (hcomp.of_visits (.operand note hc (.here ..)))) hs
      rw [evaluate_unary note s hc]
      exact andThen_keeps he fun v s₁ _ hs₁ => hs₁
  | binary op l r note, s, h, hs => by
    cases hc : l.isAbsent || r.isAbsent || !op.isTruthy with
    | true =>
      rw [evaluate_binary_incomplete note s hc]
      exact hs
    | false =>
      cases ho : operatorOf op with
      | error err =>
        rw [evaluate_binary_unknown note s hc ho]
        exact hs
      | ok o =>
        have hleft := evaluate_keeps l s (fun name t₁ t₂ hcomp =>
          h name t₁ t₂ (hcomp.of_visits (.left note hc ho (.here ..)))) hs
        rw [evaluate_binary note s hc ho]
        refine andThen_keeps hleft fun a s₁ hl hs₁ => ?_
        cases hd : o.decides a with
        | true => exact hs₁
        | false =>
          have hright := evaluate_keeps r s₁ (fun name t₁ t₂ hcomp =>
            h name t₁ t₂ (hcomp.of_visits (.right note hc ho hl hd (.here ..)))) hs₁
          exact andThen_keeps hright fun b s₂ _ hs₂ => hs₂
  | assign name e note, s, h, hs => by
    cases hn : name.isTruthy with
    | false =>
      rw [evaluate_assign_unnamed e note s hn]
      exact hs
    | true =>
      have he := evaluate_keeps e s (fun name t₁ t₂ hcomp =>
        h name t₁ t₂ (hcomp.of_visits (.value note hn (.here ..)))) hs
      rw [evaluate_assign e note s hn]
      refine andThen_keeps he fun v s₁ hv hs₁ => ?_
      cases hb : bind name v s₁ with
      | error err => exact hs₁
      | ok s₂ => exact h name s₁ s₂ ⟨.here .., hn, hv, hb⟩ hs₁
  | call name args note, s, h, hs => by
    rw [evaluate_call]
    cases hn : calleeName name with
    | error err => exact hs
    | ok dotted =>
      rw [andThen_ok]
      cases hf : target s dotted with
      | error err => exact hs
      | ok f =>
        have hargs := evaluateArguments_keeps args s (fun name t₁ t₂ hcomp => by
          obtain ⟨before, arg, after, vs, s₁, rfl, hb, hc⟩ := hcomp
          exact h name t₁ t₂ (hc.of_visits (.argument note hn hf hb (.here ..)))) hs
        rw [andThen_ok]
        exact andThen_keeps hargs fun vs s₁ _ hs₁ => hs₁

theorem evaluateArguments_keeps : (args : List Expr) → (s : Scope) →
    (∀ name t₁ t₂, ArgumentsComplete args s name t₁ t₂ → P t₁ → P t₂) → P s →
    P (evaluateArguments args s).2
  | [], s, _, hs => by
    rw [evaluateArguments_nil]
    exact hs
  | a :: rest, s, h, hs => by
    have ha := evaluate_keeps a s (fun name t₁ t₂ hcomp =>
      h name t₁ t₂ ⟨[], a, rest, [], s, rfl, evaluateArguments_nil s, hcomp⟩) hs
    rw [evaluateArguments_cons]
    refine andThen_keeps ha fun v s₁ hv hs₁ => ?_
    have hrest := evaluateArguments_keeps rest s₁ (fun name t₁ t₂ hcomp => by
      obtain ⟨before, arg, after, vs, s₂, rfl, hb, hc⟩ := hcomp
      refine h name t₁ t₂ ⟨a :: before, arg, after, v :: vs, s₂, rfl, ?_, hc⟩
      rw [evaluateArguments_cons, hv, andThen_ok, hb, andThen_ok]) hs₁
    exact andThen_keeps hrest fun vs s₂ _ hs₂ => hs₂

end

end Expr

open TokenFormula.Expr

/-- What every write keeps holds at the end if it holds after one of the evaluations inside. -/
theorem Stable.after_visits {p : Expr → Prop} {P : Scope → Prop} {e e' : Expr} {s t : Scope}
    (h : Stable p (fun _ => True) P) (hv : e.Visits s e' t) (he : e.Every p)
    (hP : P (e'.evaluate t).2) : P (e.evaluate s).2 := by
  induction hv with
  | here => exact hP
  | group note _ ih =>
    rw [evaluate_group]
    exact ih he.2 hP
  | operand note hc _ ih =>
    rw [evaluate_unary note _ hc]
    exact andThen_keeps (ih he.2 hP) fun v s₁ _ hs₁ => hs₁
  | @left op o l r _ _ _ note hc ho _ ih =>
    rw [evaluate_binary note _ hc ho]
    refine andThen_keeps (ih he.2.1 hP) fun a s₁ _ hs₁ => ?_
    split
    · exact hs₁
    · exact andThen_keeps (h.evaluate r he.2.2 s₁ hs₁).1 fun b s₂ _ hs₂ => hs₂
  | right note hc ho hl hd _ ih =>
    rw [evaluate_binary note _ hc ho, hl, andThen_ok, hd, if_neg Bool.false_ne_true]
    exact andThen_keeps (ih he.2.2 hP) fun b s₂ _ hs₂ => hs₂
  | @value name body _ _ _ note hn _ ih =>
    rw [evaluate_assign body note _ hn]
    refine andThen_keeps (ih he.2 hP) fun v s₁ _ hs₁ => ?_
    cases hb : Expr.bind name v s₁ with
    | error err => exact hs₁
    | ok s₂ => exact h.bind he.1 hs₁ trivial hb
  | @argument _ _ _ before after arg _ _ _ _ _ note hn hf hb _ ih =>
    obtain ⟨-, harg, hafter⟩ := everyArgument_append.mp he.2
    rw [evaluate_call, hn, andThen_ok, hf, andThen_ok, evaluateArguments_append hb,
      evaluateArguments_cons]
    refine andThen_keeps (andThen_keeps (andThen_keeps (ih harg hP) fun v s₂ _ hs₂ => ?_)
      fun vs s₂ _ hs₂ => hs₂) fun vs s₂ _ hs₂ => hs₂
    exact andThen_keeps (h.evaluateArguments after hafter s₂ hs₂).1 fun vs s₃ _ hs₃ => hs₃

namespace Expr

variable {e : Expr} {s : Scope}

/-! ## Bindings to values that are no texts -/

/-- A binding to a value that is no text is there afterwards. -/
theorem unnamed_bind {name v : Value} {s s' : Scope} (h : bind name v s = .ok s') :
    (∃ key, name = .text key) ∧ s'.unnamed = s.unnamed ∨ s'.unnamed ≠ [] := by
  unfold bind at h
  split at h
  · rename_i key
    obtain rfl := Except.ok.inj h
    exact .inl ⟨⟨key, rfl⟩, rfl⟩
  · split at h
    · obtain rfl := Except.ok.inj h
      exact .inr (Scope.writeUnnamed_ne_nil _ _ _)
    · cases h

/-- Bindings to values that are no texts stay. -/
theorem stable_unnamed : Stable (fun _ => True) (fun _ => True) fun s => s.unnamed ≠ [] where
  literal _ _ _ := trivial
  var _ _ := trivial
  unary _ _ := trivial
  binary _ _ _ := trivial
  call _ _ _ _ := trivial
  bind := by
    intro name e note _ s v s' hs _ h
    obtain ⟨-, hkept⟩ | hne := unnamed_bind h
    · rw [hkept]
      exact hs
    · exact hne

/-- After an evaluation only texts are bound just if that was so before and all assignments
    that it completes are to texts. -/
theorem unnamed_evaluate_iff : (e.evaluate s).2.unnamed = [] ↔
    s.unnamed = [] ∧ ∀ name t₁ t₂, e.Completes s name t₁ t₂ → ∃ key, name = .text key := by
  have hevery : e.Every fun _ => True := every_of_forall (fun _ => trivial) e
  constructor
  · intro h
    constructor
    · by_contra hs
      exact (stable_unnamed.evaluate e hevery s hs).1 h
    · rintro _ _ t₂ ⟨hv, hn, hb, hbind⟩
      obtain ⟨htext, -⟩ | hne := unnamed_bind hbind
      · exact htext
      · refine absurd h (stable_unnamed.after_visits hv hevery ?_)
        rw [evaluate_assign _ _ _ hn, hb, andThen_ok, hbind]
        exact hne
  · rintro ⟨hs, htexts⟩
    refine evaluate_keeps (P := fun t => t.unnamed = []) e s (fun name t₁ t₂ hc ht => ?_) hs
    obtain ⟨key, rfl⟩ := htexts name t₁ t₂ hc
    obtain ⟨-, -, -, hbind⟩ := hc
    obtain rfl := Except.ok.inj hbind
    exact ht

end Expr
end TokenFormula
