import Mathlib.Data.List.Forall2
import TokenFormula.Proofs.Algorithm.Rendering
import TokenFormula.Proofs.Algorithm.Step

/-!
# Token series

A series has one token for each iteration value, and each token shows the run
for its own value alone: its result, or the message of the step at which it
failed. One result that cannot be rendered leaves no series at all, though.

Results:
* `tokensOf_eq_ok_iff`: a series is generated value by value.
* `exists_token_iff`: when a run gives a token.
* `tokens_isolated`: a series exists exactly if all results can be rendered, and
  shows each run by itself.
* `not_tokens_isolated`: a result that takes the series down.
-/

namespace TokenFormula.Algorithm

/-- A series is generated value by value. -/
theorem tokensOf_eq_ok_iff (a : Algorithm) (settings : Settings) (modes : Modes)
    (ns : List Number) : ∀ ts, (a.tokensOf settings modes ns).1 = .ok ts ↔
      List.Forall₂ (fun n t => (a.token settings modes n).1 = .ok t) ns ts := by
  induction ns with
  | nil =>
    intro ts
    cases ts <;> simp [tokensOf]
  | cons n rest ih =>
    intro ts
    rw [tokensOf]
    rcases htoken : a.token settings modes n with ⟨_ | t, ws⟩
    · cases ts <;> simp [htoken]
    · rcases hrest : a.tokensOf settings modes rest with ⟨_ | us, more⟩
      · have hnone : ∀ us, ¬ List.Forall₂ (fun n t => (a.token settings modes n).1 = .ok t)
            rest us := by
          intro us hus
          have := (ih us).mpr hus
          rw [hrest] at this
          cases this
        cases ts <;> simp [hnone]
      · rw [hrest] at ih
        cases ts <;> simp [← ih, htoken]

theorem exists_tokensOf_iff (a : Algorithm) (settings : Settings) (modes : Modes)
    (ns : List Number) : (∃ ts, (a.tokensOf settings modes ns).1 = .ok ts) ↔
      ∀ n ∈ ns, ∃ t, (a.token settings modes n).1 = .ok t := by
  simp only [tokensOf_eq_ok_iff]
  induction ns with
  | nil => simp
  | cons n rest ih =>
    simp only [List.forall₂_cons_left_iff, List.forall_mem_cons, ← ih]
    constructor
    · rintro ⟨-, t, us, ht, hus, -⟩
      exact ⟨⟨t, ht⟩, us, hus⟩
    · rintro ⟨⟨t, ht⟩, us, hus⟩
      exact ⟨t :: us, t, us, ht, hus, rfl⟩

/-! ## One token -/

section Token

variable {a : Algorithm} {settings : Settings} {modes : Modes} {n : Number} {t : Token}

/-- The run for one value of a series gives a result or fails at a step. -/
def Ends (a : Algorithm) (settings : Settings) (modes : Modes) (n : Number) : Prop :=
  (∃ r, (a.run settings (.num n) [] modes).1 = .ok r) ∨
    ∃ f, (a.run settings (.num n) [] modes).1 = .error (.step f)

/-- The token shows the run for an iteration value: its rendered result, or the
    message of the step that failed. -/
def ShowsRun (a : Algorithm) (settings : Settings) (modes : Modes) (n : Number) (t : Token) :
    Prop :=
  t.iteration = n ∧
    match (a.run settings (.num n) [] modes).1 with
    | .ok r => t.error? = none ∧ renderFor a.valueType r.final = .ok t.value
    | .error (.step f) => t.error? = some f.message
    | .error _ => False

/-- The iteration value of a run has a text, as the journal shows it. -/
theorem Ends.hasText (h : a.Ends settings modes n) : n.HasText := by
  by_contra hn
  have hd : ¬ ∃ s, n.display = .ok s := by rwa [n.exists_display_iff]
  have hrun : ∃ f, a.run settings (.num n) [] modes = (.error (.escaped f), []) := by
    cases hs : n.display with
    | ok s => exact absurd ⟨s, hs⟩ hd
    | error f =>
      have hp : (Value.num n).plain = .error f := by rw [Value.plain, Value.display, hs]; simp
      exact ⟨f, by rw [run, recordedScope, hp]; rfl⟩
  obtain ⟨f, hf⟩ := hrun
  rcases h with ⟨r, hr⟩ | ⟨g, hg⟩
  · rw [hf] at hr
    cases hr
  · rw [hf] at hg
    cases hg

theorem exists_tokenId (hn : n.HasText) : ∃ id, a.tokenId n = .ok id := by
  obtain ⟨s, hs⟩ := n.exists_text_iff.mpr hn
  exact ⟨a.id ++ "-" ++ s, by rw [tokenId, hs]; rfl⟩

/-- A run that fails at a step always gives a token. -/
theorem token_of_failure {f : StepFailure} {ws : List String} (hn : n.HasText)
    (h : a.run settings (.num n) [] modes = (.error (.step f), ws)) :
    ∃ t, (a.token settings modes n).1 = .ok t ∧ t.iteration = n ∧ t.error? = some f.message := by
  obtain ⟨id, hid⟩ := exists_tokenId (a := a) hn
  obtain ⟨s, hs⟩ := n.exists_text_iff.mpr hn
  obtain ⟨d, hd⟩ := n.exists_display_iff.mpr hn
  unfold token errorWarning errorToken
  rw [hid, h, hs, hd]
  exact ⟨_, rfl, rfl, rfl⟩

/-- A finished run gives the token of its result, if that can be rendered. -/
theorem token_of_run {r : Run} {ws : List String} (hn : n.HasText)
    (h : a.run settings (.num n) [] modes = (.ok r, ws)) :
    (a.token settings modes n).1 = .ok t ↔ ∃ id name value,
      t = ⟨id, name, value, n, a.lastFormulaName, none⟩ ∧ a.tokenId n = .ok id ∧
        displayName a.name n = .ok name ∧ renderFor a.valueType r.final = .ok value := by
  obtain ⟨id, hid⟩ := exists_tokenId (a := a) hn
  obtain ⟨name, hname⟩ := exists_displayName a.name hn
  unfold token resultToken
  rw [hid, h, hname]
  dsimp only
  cases hv : renderFor a.valueType r.final with
  | error f => simp [ok_bind, Except.mapError]
  | ok value => simp [ok_bind, pure_eq_ok, Except.mapError, eq_comm]

/-- The runs that give a token. -/
theorem exists_token_iff (h : a.Ends settings modes n) :
    (∃ t, (a.token settings modes n).1 = .ok t) ↔
      ∀ r, (a.run settings (.num n) [] modes).1 = .ok r → r.final.Renders a.valueType := by
  have hn := h.hasText
  rcases hrun : a.run settings (.num n) [] modes with ⟨outcome, ws⟩
  rcases h with ⟨r, hr⟩ | ⟨f, hf⟩
  · rw [hrun] at hr
    obtain rfl : outcome = .ok r := hr
    obtain ⟨id, hid⟩ := exists_tokenId (a := a) hn
    obtain ⟨name, hname⟩ := exists_displayName a.name hn
    simp [token_of_run hn hrun, hid, hname, ← exists_renderFor_iff]
  · rw [hrun] at hf
    obtain rfl : outcome = .error (.step f) := hf
    obtain ⟨t, ht, -⟩ := token_of_failure hn hrun
    simp [ht]

theorem showsRun_of_token (h : a.Ends settings modes n)
    (ht : (a.token settings modes n).1 = .ok t) : a.ShowsRun settings modes n t := by
  have hn := h.hasText
  rcases hrun : a.run settings (.num n) [] modes with ⟨outcome, ws⟩
  unfold ShowsRun
  rcases h with ⟨r, hr⟩ | ⟨f, hf⟩
  · rw [hrun] at hr ⊢
    obtain rfl : outcome = .ok r := hr
    obtain ⟨id, name, value, rfl, -, -, hv⟩ := (token_of_run hn hrun).mp ht
    exact ⟨rfl, rfl, hv⟩
  · rw [hrun] at hf ⊢
    obtain rfl : outcome = .error (.step f) := hf
    obtain ⟨t', ht', hi, he⟩ := token_of_failure hn hrun
    rw [ht] at ht'
    cases ht'
    exact ⟨hi, he⟩

end Token

/-! ## Whole series -/

/-- A series over 0 and 1 of one formula, shown as colors, with the variable `big`. -/
def seriesOf (text : String) (big : Int) : Algorithm :=
  { ofTexts "color" [⟨"v1", "big", some .number, .num (.int big), none, false, none, none⟩]
      [("F1", text)] with
    generation? := some ⟨true, ⟨.int 0, .int 1, .int 1⟩⟩ }

theorem values_zero_one :
    (IterationRange.mk (.int 0) (.int 1) (.int 1)).values Settings.default.maxIterations =
      .ok [.int 0, .int 1] := rfl

section Series

variable {a : Algorithm} {settings : Settings} {modes : Modes} {g : TokenGeneration}
  {ns : List Number}

theorem tokens_eq_tokensOf (hg : a.generation? = some g) (he : g.enabled = true)
    (hv : g.range.values settings.maxIterations = .ok ns) :
    a.tokens settings modes = a.tokensOf settings modes ns := by
  unfold tokens
  rw [hg]
  simp [he, hv]

/-- Where the run for every value of a range gives a result or fails at a step,
    there is a series exactly if every result can be rendered, and each of its
    tokens shows the run for the value at its place. -/
theorem tokens_isolated (hg : a.generation? = some g) (he : g.enabled = true)
    (hv : g.range.values settings.maxIterations = .ok ns)
    (hends : ∀ n ∈ ns, a.Ends settings modes n) :
    ((∃ ts, (a.tokens settings modes).1 = .ok ts) ↔
      ∀ n ∈ ns, ∀ r, (a.run settings (.num n) [] modes).1 = .ok r → r.final.Renders a.valueType) ∧
    ∀ ts, (a.tokens settings modes).1 = .ok ts →
      List.Forall₂ (a.ShowsRun settings modes) ns ts := by
  rw [tokens_eq_tokensOf hg he hv]
  constructor
  · rw [exists_tokensOf_iff]
    exact forall₂_congr fun n hn => exists_token_iff (hends n hn)
  · intro ts hts
    have htokens := (tokensOf_eq_ok_iff a settings modes ns ts).mp hts
    have hboth := (List.forall₂_and_left ns ts).mpr ⟨hends, htokens⟩
    exact hboth.imp fun n t h => showsRun_of_token h.1 h.2

end Series

set_option maxRecDepth 10000 in
/-- Of `n || missing` the run for 0 fails and the run for 1 does not. -/
theorem tokens_isolated_one_failure :
    ∃ ts, ((seriesOf "n || missing" 0).tokens Settings.default []).1 = .ok ts ∧
      List.Forall₂ ((seriesOf "n || missing" 0).ShowsRun Settings.default [])
        [.int 0, .int 1] ts := by
  have hfails : ∃ f, ((seriesOf "n || missing" 0).run Settings.default (.num (.int 0)) [] []).1 =
      .error (.step f) := by
    rw [run_num (Number.safeLimit_lt_textLimit (by decide)) rfl]
    exact ⟨_, rfl⟩
  have hruns : ∃ r, ((seriesOf "n || missing" 0).run Settings.default (.num (.int 1)) [] []).1 =
      .ok r ∧ r.final = .num (.int 1) := by
    rw [run_num (Number.safeLimit_lt_textLimit (by decide)) rfl]
    exact ⟨_, rfl, rfl⟩
  obtain ⟨f, hf⟩ := hfails
  obtain ⟨r, hr, hfinal⟩ := hruns
  have hends : ∀ n ∈ [Number.int 0, .int 1],
      (seriesOf "n || missing" 0).Ends Settings.default [] n := by
    rw [List.forall_mem_cons, List.forall_mem_singleton]
    exact ⟨.inr ⟨f, hf⟩, .inl ⟨r, hr⟩⟩
  have hisolated := tokens_isolated rfl rfl values_zero_one hends
  obtain ⟨ts, hts⟩ := hisolated.1.mpr (by
    simp only [List.forall_mem_cons, List.not_mem_nil, false_imp_iff, implies_true, and_true]
    refine ⟨fun q hq => ?_, fun q hq => ?_⟩
    · rw [hf] at hq
      cases hq
    · rw [hr] at hq
      cases hq
      rw [hfinal]
      refine ⟨(Value.hasText_int 1).mpr (Number.safeLimit_lt_textLimit (by decide)), ?_⟩
      intro _ k hk
      cases hk
      decide +kernel)
  exact ⟨ts, hts, hisolated.2 ts hts⟩

set_option maxRecDepth 10000 in
/-- Both runs of `n && big` give a result, but an integer beyond the doubles is
    no color, so that there is no series. -/
theorem not_tokens_isolated :
    ∃ g, (seriesOf "n && big" (10 ^ 310)).generation? = some g ∧ g.enabled = true ∧
      g.range.values Settings.default.maxIterations = .ok [.int 0, .int 1] ∧
      (∀ n ∈ [Number.int 0, .int 1],
        (seriesOf "n && big" (10 ^ 310)).Ends Settings.default [] n) ∧
      ¬ ∃ ts, ((seriesOf "n && big" (10 ^ 310)).tokens Settings.default []).1 = .ok ts := by
  have hzero : ∃ r, ((seriesOf "n && big" (10 ^ 310)).run Settings.default (.num (.int 0))
      [] []).1 = .ok r := by
    rw [run_num (Number.safeLimit_lt_textLimit (by decide)) rfl]
    exact ⟨_, rfl⟩
  have hone : ∃ r, ((seriesOf "n && big" (10 ^ 310)).run Settings.default (.num (.int 1))
      [] []).1 = .ok r ∧ r.final = .num (.int (10 ^ 310)) := by
    rw [run_num (Number.safeLimit_lt_textLimit (by decide)) rfl]
    exact ⟨_, rfl, rfl⟩
  obtain ⟨r, hr, hfinal⟩ := hone
  refine ⟨_, rfl, rfl, values_zero_one, ?_, ?_⟩
  · rw [List.forall_mem_cons, List.forall_mem_singleton]
    exact ⟨.inl hzero, .inl ⟨r, hr⟩⟩
  · rw [tokens_eq_tokensOf rfl rfl values_zero_one, exists_tokensOf_iff]
    intro htokens
    have hrenders := (exists_token_iff (.inl ⟨r, hr⟩)).mp (htokens (.int 1) (by simp)) r hr
    rw [hfinal] at hrenders
    have hlt : (10 ^ 310 : Int) < (Double.overflowLimit : Int) := hrenders.2 rfl _ rfl
    exact absurd hlt (by decide +kernel)

end TokenFormula.Algorithm
