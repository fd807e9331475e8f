/-!
# Computations that may fail

A sequence of computations succeeds if each of them does; otherwise it fails
with the first error.

Results:
* `bind_eq_ok`, `map_eq_ok`, `mapError_eq_ok`: what a success says of the parts.
* `exists_bind_pure_iff`, `exists_bind_bind_pure_iff`, `exists_mapM_iff`: when there is
  a success.
* `FailsIn`: the errors with which a computation can fail.
* `SameFailure`: computations that fail alike.
* `run_bind_eq`: a sequence of computations with a state.
* `SucceedsIff`: when a computation succeeds, and how it fails otherwise.
-/

namespace TokenFormula

variable {ε ε' α β γ : Type}

theorem ok_bind (a : α) (k : α → Except ε β) : (Except.ok a >>= k) = k a := rfl

theorem error_bind (e : ε) (k : α → Except ε β) : (Except.error e >>= k) = .error e := rfl

theorem pure_eq_ok (a : α) : (pure a : Except ε α) = .ok a := rfl

/-- A sequence succeeds if both of its parts do. -/
theorem bind_eq_ok {r : Except ε α} {k : α → Except ε β} {b : β} (h : (r >>= k) = .ok b) :
    ∃ a, r = .ok a ∧ k a = .ok b := by
  cases r with
  | error e => cases h
  | ok a => exact ⟨a, rfl, h⟩

theorem map_eq_ok {f : α → β} {r : Except ε α} {b : β} (h : r.map f = .ok b) :
    ∃ a, r = .ok a ∧ f a = b := by
  cases r with
  | error e => cases h
  | ok a => exact ⟨a, rfl, Except.ok.inj h⟩

theorem mapError_eq_ok {f : ε → ε'} {r : Except ε α} {a : α} (h : r.mapError f = .ok a) :
    r = .ok a := by
  cases r with
  | error e => cases h
  | ok b =>
    cases h
    rfl

/-- A sequence succeeds with its first part if the second always does. -/
theorem exists_bind_pure_iff {r : Except ε α} {f : α → β} :
    (∃ b, (do return f (← r)) = Except.ok b) ↔ ∃ a, r = .ok a := by
  constructor
  · rintro ⟨b, h⟩
    obtain ⟨a, ha, -⟩ := bind_eq_ok h
    exact ⟨a, ha⟩
  · rintro ⟨a, rfl⟩
    exact ⟨f a, rfl⟩

theorem exists_bind_bind_pure_iff {r : Except ε α} {r' : Except ε β} {f : α → β → γ} :
    (∃ c, (do
      let a ← r
      let b ← r'
      return f a b) = Except.ok c) ↔ (∃ a, r = .ok a) ∧ ∃ b, r' = .ok b := by
  constructor
  · rintro ⟨c, h⟩
    obtain ⟨a, ha, h⟩ := bind_eq_ok h
    obtain ⟨b, hb, -⟩ := bind_eq_ok h
    exact ⟨⟨a, ha⟩, b, hb⟩
  · rintro ⟨⟨a, rfl⟩, b, rfl⟩
    exact ⟨f a b, rfl⟩

/-- Computations for all elements succeed if each does. -/
theorem exists_mapM_iff {f : α → Except ε β} {p : α → Prop}
    (hf : ∀ a, (∃ b, f a = .ok b) ↔ p a) (as : List α) :
    (∃ bs, as.mapM f = .ok bs) ↔ ∀ a ∈ as, p a := by
  induction as with
  | nil => exact iff_of_true ⟨[], rfl⟩ (fun _ h => by cases h)
  | cons a as ih =>
    rw [List.mapM_cons, exists_bind_bind_pure_iff, hf, ih, List.forall_mem_cons]

/-- A computation fails if it does not succeed. -/
theorem exists_error_iff {r : Except ε α} : (∃ e, r = .error e) ↔ ¬ ∃ a, r = .ok a := by
  cases r with
  | error e => exact iff_of_true ⟨e, rfl⟩ nofun
  | ok a => exact iff_of_false nofun fun h => h ⟨a, rfl⟩

/-! ## Errors -/

/-- A failure has an error with the property. -/
def FailsIn (p : ε → Prop) (r : Except ε α) : Prop :=
  ∀ e, r = .error e → p e

namespace FailsIn

variable {p q : ε → Prop} {r : Except ε α}

theorem ok (a : α) : FailsIn p (.ok a : Except ε α) :=
  fun _ h => by cases h

theorem error {e : ε} (h : p e) : FailsIn p (.error e : Except ε α) := by
  intro e' he
  cases he
  exact h

theorem mono (h : FailsIn p r) (hpq : ∀ e, p e → q e) : FailsIn q r :=
  fun e he => hpq e (h e he)

/-- The first failure of a sequence is that of one of its parts. -/
theorem bind {k : α → Except ε β} (h : FailsIn p r) (hk : ∀ a, FailsIn p (k a)) :
    FailsIn p (r >>= k) := by
  cases r with
  | error e => exact error (h e rfl)
  | ok a => exact hk a

theorem map {f : α → β} (h : FailsIn p r) : FailsIn p (r.map f) := by
  cases r with
  | error e => exact error (h e rfl)
  | ok a => exact ok _

theorem mapError {p : ε' → Prop} {f : ε → ε'} (h : FailsIn q r) (hf : ∀ e, q e → p (f e)) :
    FailsIn p (r.mapError f) := by
  cases r with
  | error e => exact error (hf e (h e rfl))
  | ok a => exact ok a

end FailsIn

/-- Both computations succeed, or they fail with the same error. -/
inductive SameFailure : Except ε α → Except ε α → Prop
  | ok (a b : α) : SameFailure (.ok a) (.ok b)
  | error (e : ε) : SameFailure (.error e) (.error e)

theorem SameFailure.refl (r : Except ε α) : SameFailure r r := by
  cases r with
  | ok a => exact .ok a a
  | error e => exact .error e

theorem SameFailure.bind {r r' : Except ε α} {k l : α → Except ε β} (h : SameFailure r r')
    (hk : ∀ a b, SameFailure (k a) (l b)) : SameFailure (r >>= k) (r' >>= l) := by
  cases h with
  | ok a b => exact hk a b
  | error e => exact .error e

/-! ## Computations with a state -/

/-- After a success a sequence goes on in the state that it left. -/
theorem run_bind_eq {σ : Type} (m : ExceptT ε (StateM σ) α) (k : α → ExceptT ε (StateM σ) β)
    (s : σ) :
    (m >>= k).run s = match m.run s with
      | (.ok a, s') => (k a).run s'
      | (.error e, s') => (.error e, s') := by
  rw [ExceptT.run_bind]
  show StateT.bind m.run _ s = _
  unfold StateT.bind
  show (match m.run s with
    | (r, s') => _) = _
  match m.run s with
  | (.ok a, s') => rfl
  | (.error e, s') => rfl

/-! ## Conditions of success -/

/-- The computation succeeds just under the condition, and otherwise fails with an
    error with the property. -/
def SucceedsIff (p : ε → Prop) (c : Prop) : Except ε α → Prop
  | .ok _ => c
  | .error e => ¬ c ∧ p e

namespace SucceedsIff

variable {p : ε → Prop} {c d : Prop} {r : Except ε α}

theorem exists_iff (h : SucceedsIff p c r) : (∃ a, r = .ok a) ↔ c := by
  cases r with
  | ok a => exact iff_of_true ⟨a, rfl⟩ h
  | error e => exact iff_of_false nofun h.1

theorem failsIn (h : SucceedsIff p c r) : FailsIn p r := by
  cases r with
  | ok a => exact .ok a
  | error e => exact .error h.2

theorem congr (h : SucceedsIff p c r) (hcd : c ↔ d) : SucceedsIff p d r := by
  cases r with
  | ok a => exact hcd.mp h
  | error e => exact ⟨fun hd => h.1 (hcd.mpr hd), h.2⟩

theorem of_eq_ok {a : α} (h : r = .ok a) : SucceedsIff p True r := by
  rw [h]
  trivial

/-- A sequence succeeds under the conditions of both parts. -/
theorem bind {k : α → Except ε β} (h : SucceedsIff p c r)
    (hk : ∀ a, r = .ok a → SucceedsIff p d (k a)) : SucceedsIff p (c ∧ d) (r >>= k) := by
  cases r with
  | error e => exact ⟨fun hcd => h.1 hcd.1, h.2⟩
  | ok a => exact (hk a rfl).congr (and_iff_right h).symm

/-- A test in front of the computation. -/
theorem guard {b : Bool} {e : ε} (he : p e) (h : b = false → SucceedsIff p d r) :
    SucceedsIff p (b = false ∧ d) (if b then .error e else r) := by
  cases b with
  | true => exact ⟨fun hd => Bool.false_ne_true hd.1.symm, he⟩
  | false => exact (h rfl).congr (and_iff_right rfl).symm

/-- A last part that always succeeds adds no condition. -/
theorem map {f : α → β} (h : SucceedsIff p c r) : SucceedsIff p c (do return f (← r)) := by
  cases r with
  | error e => exact h
  | ok a => exact h

end SucceedsIff

end TokenFormula
