import TokenFormula.Algorithm.Token
import TokenFormula.Proofs.Expr.Outcome
import TokenFormula.Proofs.Number.Normal
import TokenFormula.Proofs.Value.Text

/-!
# Results that can be rendered

A result is rendered as the value of a token unless an integer in it has too
many digits. As a color an integer also has to convert to a double, negative
ones apart.

Results:
* `exists_renderFor_iff`: which results can be rendered.
* `exists_displayName`: a number that has a text gives a name.
-/

namespace TokenFormula

/-- A result can be rendered as the value of a token of a type. -/
def Value.Renders (valueType : String) (v : Value) : Prop :=
  v.HasText ∧
    (valueType = "color" → ∀ k : Int, v = .num (.int k) → k < (Double.overflowLimit : Int))

/-! ## Numbers that are read -/

namespace Number

theorem compare?_int (m k : Int) : (int m).compare? (int k) = some (compare m k) := by
  show some (Double.compareScaled (decide (m < 0)) m.natAbs 0 (decide (k < 0)) k.natAbs 0) = _
  unfold Double.compareScaled
  show some (compare (Double.withSign _ m.natAbs * 2 ^ 0) (Double.withSign _ k.natAbs * 2 ^ 0)) = _
  simp [withSign_natAbs]

theorem less_int (m k : Int) : (int m).less (int k) = decide (m < k) := by
  unfold less
  rw [compare?_int]
  rcases Int.lt_trichotomy m k with h | h | h
  · simp [Int.compare_eq_lt.mpr h, h]
  · simp [h]
  · simp [Int.compare_eq_gt.mpr h, Int.not_lt.mpr (Int.le_of_lt h)]

theorem lessEq_int (m k : Int) : (int m).lessEq (int k) = decide (m ≤ k) := by
  unfold lessEq equal
  rw [less_int, compare?_int]
  rcases Int.lt_trichotomy m k with h | h | h
  · simp [h, Int.le_of_lt h]
  · simp [h]
  · simp [Int.compare_eq_gt.mpr h, Int.not_le.mpr h, Int.not_lt.mpr (Int.le_of_lt h)]

end Number

/-! ## Colors -/

theorem exists_colorNumber?_real (x : Float) : ∃ r, colorNumber? (.real x) = .ok r := by
  unfold colorNumber?
  by_cases h : (Number.int 0).lessEq (.real x) = true
  · rw [if_pos h]
    cases hx : Double.integer? x with
    | none => exact ⟨none, by simp [Number.toReal, hx, ok_bind, pure_eq_ok]⟩
    | some k =>
      refine ⟨some k.toNat, ?_⟩
      simp [Number.toReal, Number.integer?, hx, ok_bind, pure_eq_ok]
  · rw [if_neg h]
    exact ⟨none, rfl⟩

/-- An integer that is not negative has to convert to a double. -/
theorem exists_colorNumber?_int (k : Int) :
    (∃ r, colorNumber? (.int k) = .ok r) ↔ k < (Double.overflowLimit : Int) := by
  have hreal := Number.exists_toReal_int_iff k
  unfold colorNumber?
  rw [Number.lessEq_int]
  by_cases h : 0 ≤ k
  · rw [decide_eq_true h, if_pos rfl]
    cases hk : (Number.int k).toReal with
    | error f =>
      have hge : ¬ k.natAbs < Double.overflowLimit := by simp [← hreal, hk]
      have hlt : ¬ k < (Double.overflowLimit : Int) := by omega
      simp [hlt, error_bind]
    | ok x =>
      have hlt : k.natAbs < Double.overflowLimit := hreal.mp ⟨x, hk⟩
      have hlt' : k < (Double.overflowLimit : Int) := by omega
      cases hx : Double.integer? x <;>
        simp [Number.integer?, hx, hlt', ok_bind, pure_eq_ok]
  · rw [decide_eq_false h, if_neg Bool.false_ne_true]
    have hlt : k < (Double.overflowLimit : Int) := by omega
    simp [hlt, pure, Except.pure]

/-- A text is read as a number far inside all limits. -/
theorem natAbs_lt_of_reading? {s : String} {k : Int}
    (h : (Value.text s).reading? = some (.int k)) : k.natAbs < Number.safeLimit.natAbs := by
  unfold Value.reading? at h
  dsimp only at h
  split at h
  · cases h
    decide
  · split at h
    · split at h
      · cases h
      · rename_i x _ _
        have hn := Option.some.inj h
        unfold Number.normalize at hn
        dsimp only at hn
        split at hn
        · split at hn
          · rename_i hlt
            rw [← Number.int.inj hn]
            exact hlt
          · cases hn
        · cases hn
    · cases h

/-- Of any other value the number is read that it counts as. -/
theorem number?_of_reading? {v : Value} {n : Number} (ht : v.isText = false)
    (h : v.reading? = some n) : v.number? = some n := by
  have hf : v.number?.filter (!·.isNaN) = some n := by
    cases v with
    | text s => cases ht
    | _ => exact h
  exact Option.eq_some_of_filter_eq_some hf

/-- An integer that is read is far inside all limits, unless it is the value. -/
theorem eq_int_of_reading? {v : Value} {k : Int} (h : v.reading? = some (.int k)) :
    v = .num (.int k) ∨ k.natAbs < Number.safeLimit.natAbs := by
  cases v with
  | text s => exact .inr (natAbs_lt_of_reading? h)
  | num n =>
    have hn := number?_of_reading? rfl h
    left
    rw [Option.some.inj hn]
  | bool b =>
    have hb := number?_of_reading? rfl h
    right
    cases b <;> cases hb <;> decide
  | null | list | dict | function => cases h

theorem hasText_of_reading? {v : Value} {n : Number} (hv : v.HasText)
    (h : v.reading? = some n) : n.HasText := by
  cases n with
  | real x => trivial
  | int k =>
    rcases eq_int_of_reading? h with rfl | hk
    · rw [Value.HasText] at hv
      exact hv
    · exact Number.safeLimit_lt_textLimit hk

/-! ## Renderings -/

/-- A result is rendered as a color if it has a text and its reading can be
    tested. -/
theorem exists_renderColor {v : Value} (hv : v.HasText)
    (h : ∀ n, v.reading? = some n → ∃ r, colorNumber? n = .ok r) :
    ∃ s, renderColor v = .ok s := by
  have hformat := v.exists_format_iff.mpr hv
  unfold renderColor
  split
  · exact hformat
  · split
    · exact hformat
    · rename_i n hn
      obtain ⟨r, hr⟩ := h n hn
      rw [hr]
      cases r with
      | none => exact hformat
      | some m => exact ⟨colorText m, rfl⟩

theorem exists_renderColor_of_renders {v : Value} (hv : v.Renders "color") :
    ∃ s, renderColor v = .ok s := by
  apply exists_renderColor hv.1
  intro n hn
  cases n with
  | real x => exact exists_colorNumber?_real x
  | int k =>
    apply (exists_colorNumber?_int k).mpr
    rcases eq_int_of_reading? hn with rfl | hk
    · exact hv.2 rfl k rfl
    · have hsafe : Number.safeLimit.natAbs ≤ Double.overflowLimit := by decide +kernel
      omega

/-- A negative integer is no color and stands for itself. -/
theorem renderColor_negative {k : Int} (hk : k < 0) :
    renderColor (.num (.int k)) = Number.integerText k := by
  unfold renderColor colorNumber?
  rw [if_neg (by simp [isColorText]), show (Value.num (.int k)).reading? = some (.int k) from rfl]
  dsimp only
  rw [Number.lessEq_int, decide_eq_false (Int.not_le.mpr hk), if_neg Bool.false_ne_true]
  simp only [ok_bind, pure_eq_ok, Value.format, Number.text, Number.normalize]

theorem renders_of_renderColor_int {k : Int} {s : String}
    (h : renderColor (.num (.int k)) = .ok s) : (Value.num (.int k)).Renders "color" := by
  have hlt : k < (Double.overflowLimit : Int) := by
    unfold renderColor at h
    rw [if_neg (by simp [isColorText]),
      show (Value.num (.int k)).reading? = some (.int k) from rfl] at h
    obtain ⟨r, hr, -⟩ := bind_eq_ok h
    exact (exists_colorNumber?_int k).mp ⟨r, hr⟩
  refine ⟨(Value.hasText_int k).mpr ?_, fun _ j hj => by cases hj; exact hlt⟩
  by_cases hk : 0 ≤ k
  · have hle := Number.overflowLimit_le_textLimit
    omega
  · rw [renderColor_negative (Int.not_le.mp hk)] at h
    exact (Number.exists_integerText_iff k).mp ⟨s, h⟩

/-- What has neither a number nor a text of its own is formatted. -/
theorem renderColor_eq_format {v : Value} (hc : isColorText v = false)
    (h : v.reading? = none) : renderColor v = v.format := by
  unfold renderColor
  rw [hc, h]
  rfl

theorem exists_renderColor_iff (v : Value) :
    (∃ s, renderColor v = .ok s) ↔ v.Renders "color" := by
  refine ⟨?_, exists_renderColor_of_renders⟩
  rintro ⟨s, h⟩
  cases v with
  | null | bool | text | function =>
    exact ⟨by simp [Value.HasText], by simp⟩
  | num n =>
    cases n with
    | int k => exact renders_of_renderColor_int h
    | real x => exact ⟨by simp [Value.HasText, Number.HasText], by simp⟩
  | list | dict =>
    rw [renderColor_eq_format rfl rfl] at h
    exact ⟨(Value.exists_format_iff _).mp ⟨s, h⟩, by simp⟩

/-- A size is rendered if it has a text. -/
theorem exists_renderSize_iff (v : Value) :
    (∃ s, (match v.reading? with
      | some n => n.text
      | none => v.format) = Except.ok s) ↔ v.HasText := by
  cases h : v.reading? with
  | none => exact v.exists_format_iff
  | some n =>
    dsimp only
    rw [n.exists_text_iff]
    constructor
    · intro hn
      cases v with
      | num m =>
        have hm := Option.some.inj (number?_of_reading? rfl h)
        rw [Value.HasText, hm]
        exact hn
      | null | list | dict | function => cases h
      | bool | text => simp [Value.HasText]
    · intro hv
      exact hasText_of_reading? hv h

/-- The results that can be rendered. -/
theorem exists_renderFor_iff (valueType : String) (v : Value) :
    (∃ s, renderFor valueType v = .ok s) ↔ v.Renders valueType := by
  by_cases hn : v = .null
  · subst hn
    simp [renderFor, Value.Renders, Value.HasText]
  have heq : renderFor valueType v =
      if isSizeType valueType then
        match v.reading? with
        | some n => n.text
        | none => v.format
      else if valueType == "color" then renderColor v
      else v.format := by
    cases v with
    | null => exact absurd rfl hn
    | _ => rfl
  rw [heq]
  by_cases hs : isSizeType valueType = true
  · have hc : valueType ≠ "color" := by
      rintro rfl
      exact absurd hs (by decide)
    rw [if_pos hs, exists_renderSize_iff]
    simp [Value.Renders, hc]
  · rw [if_neg hs]
    by_cases hc : valueType = "color"
    · subst hc
      rw [if_pos (by rfl), exists_renderColor_iff]
    · rw [if_neg (by simp [hc]), v.exists_format_iff]
      simp [Value.Renders, hc]

/-! ## Names -/

/-- A number that has a text gives the name of a token. -/
theorem exists_displayName {n : Number} (algorithmName : String) (hn : n.HasText) :
    ∃ s, displayName algorithmName n = .ok s := by
  obtain ⟨s, hs⟩ := n.exists_text_iff.mpr hn
  obtain ⟨t, ht⟩ := n.magnitude.exists_text_iff.mpr (Number.hasText_magnitude.mpr hn)
  unfold displayName
  rw [hs, ht]
  dsimp only
  split
  · exact ⟨_, rfl⟩
  · exact ⟨_, rfl⟩

end TokenFormula
