import TokenFormula.Algorithm.Range
import TokenFormula.Proofs.Sequence

/-!
# The loop over a range

The values of a range are taken place by place, until one of them exceeds the last value
of the range or all places that were counted are used up. A count that is too great does
no harm, but after one that is too small the values at the further places are missing.

Results:
* `exists_of_values`: what was checked and counted for the values of a range.
* `IsSeries`: the values of a range up to the first place that is past its end.
* `isInitial_of_values`: every list of values is an initial part of them.
* `isSeries_iff`: it is all of them exactly if the loop looks at a place past the end.
-/

namespace TokenFormula.IterationRange

variable {r : IterationRange} {limit : Int} {ns : List Number}

/-- A range that is not refused has a positive step. -/
theorem less_of_check {u : Unit} (h : r.check = .ok u) : (Number.int 0).less r.step = true := by
  cases hstep : (Number.int 0).less r.step with
  | true => rfl
  | false =>
    unfold check at h
    rw [hstep] at h
    obtain ⟨_, hrefused, -⟩ := bind_eq_ok h
    obtain ⟨_, -, hrefused⟩ := bind_eq_ok hrefused
    cases hrefused

/-- The number of places that the loop looks at. -/
def looked (r : IterationRange) : Nat :=
  if r.last.less r.first then 0
  else
    match r.count with
    | .ok c => c.toNat
    | .error _ => 0

/-- The values of a range that is not refused: none if its end is before its start, and
    those at the places that are counted otherwise. -/
theorem exists_of_values (h : r.values limit = .ok ns) :
    (Number.int 0).less r.step = true ∧ r.valuesFrom 0 r.looked = .ok ns ∧
      (r.last.less r.first = false → ∃ c, r.count = .ok c ∧ c ≤ limit ∧ r.looked = c.toNat) := by
  unfold values at h
  obtain ⟨u, hcheck, h⟩ := bind_eq_ok h
  refine ⟨less_of_check hcheck, ?_⟩
  unfold looked
  cases hempty : r.last.less r.first with
  | true =>
    rw [hempty, if_pos rfl] at h
    obtain rfl := Except.ok.inj h
    exact ⟨rfl, nofun⟩
  | false =>
    rw [hempty, if_neg Bool.false_ne_true] at h
    obtain ⟨c, hc, h⟩ := bind_eq_ok h
    have hc := mapError_eq_ok hc
    rw [if_neg Bool.false_ne_true, hc]
    by_cases hmany : limit < c
    · rw [if_pos hmany] at h
      cases h
    · rw [if_neg hmany] at h
      exact ⟨mapError_eq_ok h, fun _ => ⟨c, rfl, Int.not_lt.mp hmany, rfl⟩⟩

/-- The loop looks at least as far as the count goes. -/
theorem le_looked (h : r.values limit = .ok ns) {n : Nat}
    (hn : 0 < n → r.last.less r.first = false ∧
      ∀ c, r.count = .ok c → c ≤ limit → (n : Int) ≤ c) : n ≤ r.looked := by
  rcases Nat.eq_zero_or_pos n with rfl | hpos
  · exact Nat.zero_le _
  · obtain ⟨-, -, hcount⟩ := exists_of_values h
    obtain ⟨hless, hle⟩ := hn hpos
    obtain ⟨c, hc, hlimit, hlooked⟩ := hcount hless
    have := hle c hc hlimit
    omega

/-! ## Values up to the end -/

/-- The range has no value at the place, or one that exceeds its last value. -/
def PastEnd (r : IterationRange) (k : Nat) : Prop :=
  ∀ v, r.value k = .ok v → r.last.less v = true

/-- The values at the first places of the range, none of which exceeds its last value. -/
structure IsInitial (r : IterationRange) (ns : List Number) : Prop where
  value_eq : ∀ k (h : k < ns.length), r.value k = .ok ns[k]
  within : ∀ n ∈ ns, r.last.less n = false

/-- The values of the range at all places before the first that is past its end. -/
structure IsSeries (r : IterationRange) (ns : List Number) : Prop extends r.IsInitial ns where
  pastEnd : r.PastEnd ns.length

/-- The loop from a place on ends after `n` places or at a place past the end. -/
theorem valuesFrom_spec (n : Nat) : ∀ k ns, r.valuesFrom k n = .ok ns →
    ns.length ≤ n ∧ (∀ i (h : i < ns.length), r.value (k + i) = .ok ns[i]) ∧
      (∀ v ∈ ns, r.last.less v = false) ∧ (ns.length < n → r.PastEnd (k + ns.length)) := by
  induction n with
  | zero =>
    intro k ns h
    obtain rfl := Except.ok.inj h
    exact ⟨Nat.le_refl 0, nofun, nofun, nofun⟩
  | succ n ih =>
    intro k ns h
    obtain ⟨v, hv, h⟩ := bind_eq_ok h
    cases hless : r.last.less v with
    | true =>
      rw [hless, if_pos rfl] at h
      obtain rfl := Except.ok.inj h
      refine ⟨Nat.zero_le _, nofun, nofun, fun _ w hw => ?_⟩
      rw [List.length_nil, Nat.add_zero, hv] at hw
      exact Except.ok.inj hw ▸ hless
    | false =>
      rw [hless, if_neg Bool.false_ne_true] at h
      obtain ⟨rest, hrest, h⟩ := bind_eq_ok h
      obtain rfl := Except.ok.inj h
      obtain ⟨hlength, hvalue, hwithin, hpast⟩ := ih (k + 1) rest hrest
      refine ⟨Nat.succ_le_succ hlength, fun i hi => ?_, List.forall_mem_cons.mpr ⟨hless, hwithin⟩,
        fun hlt => ?_⟩
      · cases i with
        | zero => exact hv
        | succ i =>
          show r.value (k + i + 1) = _
          rw [Nat.add_right_comm]
          exact hvalue i (Nat.lt_of_succ_lt_succ hi)
      · show r.PastEnd (k + rest.length + 1)
        rw [Nat.add_right_comm]
        exact hpast (Nat.lt_of_succ_lt_succ hlt)

theorem isInitial_of_values (h : r.values limit = .ok ns) : r.IsInitial ns := by
  obtain ⟨-, hloop, -⟩ := exists_of_values h
  obtain ⟨-, hvalue, hwithin, -⟩ := valuesFrom_spec _ 0 ns hloop
  refine ⟨fun k hk => ?_, hwithin⟩
  rw [← hvalue k hk, Nat.zero_add]

/-- No value is left out exactly if the loop looks as far as a place past the end. -/
theorem isSeries_iff (h : r.values limit = .ok ns) :
    r.IsSeries ns ↔ ∃ k ≤ r.looked, r.PastEnd k := by
  obtain ⟨-, hloop, -⟩ := exists_of_values h
  obtain ⟨hlength, -, -, hpast⟩ := valuesFrom_spec _ 0 ns hloop
  have hinitial := isInitial_of_values h
  constructor
  · intro hseries
    exact ⟨ns.length, hlength, hseries.pastEnd⟩
  · rintro ⟨k, hk, hend⟩
    refine ⟨hinitial, ?_⟩
    rcases Nat.lt_or_eq_of_le hlength with hlt | heq
    · exact Nat.zero_add ns.length ▸ hpast hlt
    · -- A value in the list is not past the end.
      have hkn : ¬ k < ns.length := fun hkn => by
        have := hend _ (hinitial.value_eq k hkn)
        rw [hinitial.within _ (List.getElem_mem hkn)] at this
        cases this
      rwa [show ns.length = k by omega]

end TokenFormula.IterationRange
