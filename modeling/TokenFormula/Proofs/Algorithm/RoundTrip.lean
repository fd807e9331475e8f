import TokenFormula.Proofs.Record.RoundTrip

/-!
# Algorithms survive their stored form

Each record of an algorithm is read again from what is written: first the records
that hold plain parts, then those that hold records. A field that is left out has
nothing to write, so its default is what it was.

Results:
* `Variable.roundTrip`, `Formula.roundTrip` and the same for the other records.
* `Algorithm.ofWire_toWire`: an algorithm is read as itself.
-/

namespace TokenFormula

open PartReader

theorem VariableType.ofName?_name (t : VariableType) : ofName? t.name = some t := by
  cases t <;> decide

theorem StepType.ofName?_name (t : StepType) : ofName? t.name = some t := by
  cases t <;> decide

/-! ## Variables -/

theorem Variable.roundTrip : RoundTrip Variable.ofWire Variable.toWire := by
  refine RoundTrip.record fun es v hes h => ?_
  rw [Checked.seq_eq_ok_iff] at h ⊢
  simp only [Checked.exists_seq_iff, Checked.exists_map_iff] at h ⊢
  obtain ⟨_, hid, _, hname, _, htype, _, hdefault, _, hdescription, _, hmode, _, hdimension, _,
    hvalues, rfl⟩ := h
  -- Each field is read again from its own entry, which is found by its name below.
  refine ⟨_, roundTrip_text.field rfl hes hid ?_, _, roundTrip_text.field rfl hes hname ?_,
    _, (roundTrip_choice VariableType.ofName?_name).field? nofun hes htype ?_ ?_,
    _, roundTrip_scalar.field rfl hes hdefault ?_,
    _, roundTrip_text.field? nofun hes hdescription ?_ ?_,
    _, roundTrip_boolean.field rfl hes hmode ?_,
    _, roundTrip_text.field? nofun hes hdimension ?_ ?_,
    _, roundTrip_scalar.entries.field? nofun hes hvalues ?_ ?_, rfl⟩
  all_goals
    simp [Entries.get?_append, Entries.get?_cons, fieldDefault, fieldModeBased, fieldDimension,
      fieldByMode]

/-! ## Formulas, conditions and steps -/

/-- The stored tree is any data, so this is where its numbers have to be finite. -/
theorem FormulaText.roundTrip : RoundTrip FormulaText.ofWire FormulaText.toWire := by
  have htree : RoundTrip (entries any) fun es => (Value.dict es).stored := by
    simpa only [← Value.stored_dict] using roundTrip_any.entries
  refine RoundTrip.record fun es f hes h => ?_
  rw [Checked.seq_eq_ok_iff] at h ⊢
  simp only [Checked.exists_map_iff] at h ⊢
  obtain ⟨_, hsource, _, ht, rfl⟩ := h
  refine ⟨_, roundTrip_text.field rfl hes hsource ?_,
    _, htree.field? (fun _ => by simp [Value.stored_dict]) hes ht ?_ ?_, rfl⟩
  all_goals simp [Entries.get?_cons]

theorem Formula.roundTrip : RoundTrip Formula.ofWire Formula.toWire := by
  refine RoundTrip.record fun es f hes h => ?_
  rw [Checked.seq_eq_ok_iff] at h ⊢
  simp only [Checked.exists_seq_iff, Checked.exists_map_iff] at h ⊢
  obtain ⟨_, hid, _, hname, _, hdescription, _, hexpressions, rfl⟩ := h
  refine ⟨_, roundTrip_text.field rfl hes hid ?_, _, roundTrip_text.field rfl hes hname ?_,
    _, roundTrip_text.field? nofun hes hdescription ?_ ?_,
    _, FormulaText.roundTrip.entries.field rfl hes hexpressions ?_, rfl⟩
  all_goals simp [Entries.get?_append, Entries.get?_cons]

theorem Condition.roundTrip : RoundTrip Condition.ofWire Condition.toWire := by
  refine RoundTrip.record fun es c hes h => ?_
  rw [Checked.seq_eq_ok_iff] at h ⊢
  simp only [Checked.exists_seq_iff, Checked.exists_map_iff] at h ⊢
  obtain ⟨_, hid, _, hname, _, hsource, rfl⟩ := h
  refine ⟨_, roundTrip_text.field rfl hes hid ?_, _, roundTrip_text.field rfl hes hname ?_,
    _, roundTrip_text.field rfl hes hsource ?_, rfl⟩
  all_goals simp [Entries.get?_cons]

theorem Step.roundTrip : RoundTrip Step.ofWire Step.toWire := by
  refine RoundTrip.record fun es s hes h => ?_
  rw [Checked.seq_eq_ok_iff] at h ⊢
  simp only [Checked.exists_seq_iff, Checked.exists_map_iff] at h ⊢
  obtain ⟨_, htype, _, hid, _, hname, rfl⟩ := h
  refine ⟨_, (roundTrip_choice StepType.ofName?_name).field? nofun hes htype ?_ ?_,
    _, roundTrip_text.field rfl hes hid ?_, _, roundTrip_text.field rfl hes hname ?_, rfl⟩
  all_goals simp [Entries.get?_append, Entries.get?_cons]

/-! ## Token generation -/

theorem IterationRange.roundTrip : RoundTrip IterationRange.ofWire IterationRange.toWire := by
  refine RoundTrip.record fun es r hes h => ?_
  rw [Checked.seq_eq_ok_iff] at h ⊢
  simp only [Checked.exists_seq_iff, Checked.exists_map_iff] at h ⊢
  obtain ⟨_, hfirst, _, hlast, _, hstep, rfl⟩ := h
  refine ⟨_, roundTrip_number.field rfl hes hfirst ?_, _, roundTrip_number.field rfl hes hlast ?_,
    _, roundTrip_number.field rfl hes hstep ?_, rfl⟩
  all_goals simp [Entries.get?_cons]

theorem TokenGeneration.roundTrip : RoundTrip TokenGeneration.ofWire TokenGeneration.toWire := by
  refine RoundTrip.record fun es g hes h => ?_
  rw [Checked.seq_eq_ok_iff] at h ⊢
  simp only [Checked.exists_map_iff] at h ⊢
  obtain ⟨_, henabled, _, hrange, rfl⟩ := h
  refine ⟨_, roundTrip_boolean.field rfl hes henabled ?_,
    _, IterationRange.roundTrip.field rfl hes hrange ?_, rfl⟩
  all_goals simp [Entries.get?_cons, fieldRange]

/-! ## Algorithms -/

theorem Algorithm.roundTrip : RoundTrip Algorithm.ofWire Algorithm.toWire := by
  refine RoundTrip.record fun es a hes h => ?_
  rw [Checked.seq_eq_ok_iff] at h ⊢
  simp only [Checked.exists_seq_iff, Checked.exists_map_iff] at h ⊢
  obtain ⟨_, hid, _, hname, _, hdescription, _, htype, _, hvariables, _, hformulas, _,
    hconditions, _, hsteps, _, hgeneration, rfl⟩ := h
  refine ⟨_, roundTrip_text.field rfl hes hid ?_, _, roundTrip_text.field rfl hes hname ?_,
    _, roundTrip_text.field? nofun hes hdescription ?_ ?_,
    _, roundTrip_text.field rfl hes htype ?_,
    _, Variable.roundTrip.list.field rfl hes hvariables ?_,
    _, Formula.roundTrip.list.field rfl hes hformulas ?_,
    _, Condition.roundTrip.list.field rfl hes hconditions ?_,
    _, Step.roundTrip.list.field rfl hes hsteps ?_,
    _, TokenGeneration.roundTrip.field? nofun hes hgeneration ?_ ?_, rfl⟩
  all_goals simp [Entries.get?_append, Entries.get?_cons, fieldValueType, fieldGeneration]

/-- What is read from data with finite numbers is read from its stored form as the very
    same algorithm: every value has the type that it had, and the nulls of stored trees
    are kept. -/
theorem Algorithm.ofWire_toWire {data : Value} {a : Algorithm} (hfinite : data.AllFinite)
    (h : Algorithm.ofWire data = .ok a) : Algorithm.ofWire a.toWire = .ok a :=
  Algorithm.roundTrip hfinite h

/-- Variables with one and the same default of every type, numbers that are read from other
    values, and a null in a stored tree. -/
def mixedScalars : Value :=
  .dict [
    ("variables", .list [
      .dict [("default_value", .bool true)],
      .dict [("defaultValue", .int 1), ("description", .null)],
      .dict [("defaultValue", .real 1.0), ("type", .text "number")],
      .dict [("defaultValue", .text "1"),
        ("valuesByMode", .dict [("dark", .real 1.0), ("light", .bool true)])]]),
    ("formulas", .list [.dict [("expressions", .dict [("javascript",
      .dict [("ast", .dict [("type", .text "literal"), ("value", .null)])])])]]),
    ("tokenGeneration", .dict [("iterationRange",
      .dict [("start", .bool true), ("end", .text "3"), ("step", .text "0.5")])])]

theorem ofWire_toWire_mixedScalars :
    mixedScalars.AllFinite ∧ ∃ a, Algorithm.ofWire mixedScalars = .ok a ∧
      a.variables.map Variable.default = [.bool true, .int 1, .real 1.0, .text "1"] ∧
      Algorithm.ofWire a.toWire = .ok a := by
  have hfinite : mixedScalars.AllFinite := by
    have hreal : Double.isFinite 1.0 = true := by decide
    simp [mixedScalars, Value.AllFinite, Value.ItemsFinite, Value.EntriesFinite, Value.int,
      Value.real, Number.isFinite, hreal]
  exact ⟨hfinite, _, rfl, rfl, Algorithm.ofWire_toWire hfinite rfl⟩

end TokenFormula
