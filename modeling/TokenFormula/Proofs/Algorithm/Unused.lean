import TokenFormula.Proofs.Algorithm.Bindings
import TokenFormula.Proofs.Algorithm.Issues

/-!
# Variables that are reported as unused

A variable is reported as unused if no formula or condition reads it. Another default
for it then changes no run, as long as the analysis sees what a run reads: through
which keys the variable can be reached, and the names under which the trees of the
steps look things up.

Two runs are compared in scopes that have the same aliases and bind the same names but
hold different values at one of them.

Results:
* `Scope.AgreeOff`: scopes that differ in the value of one name.
* `runSteps_agree`: steps in scopes that agree at the reads of their trees.
* `SeesReads`: what the analysis has to see, and `seesReads_of_noStoredTree`: it sees what
  algorithms without stored trees read, but for the names that are called.
* `run_withDefault`: another default for a variable that is reported as unused.
* `not_run_withDefault`: a reported variable whose default is the result.
-/

namespace TokenFormula

/-! ## Scopes that differ in one value -/

namespace Scope

/-- The scopes have the same aliases, bind the same names, and hold the same values but
    for those at one name. -/
structure AgreeOff (x : String) (s s' : Scope) : Prop where
  aliases : s'.aliases = s.aliases
  unnamed : s'.unnamed = s.unnamed
  bound : ∀ key, s'.values.has key = s.values.has key
  values : ∀ key, key ≠ x → s'.values.get? key = s.values.get? key

namespace AgreeOff

variable {s s' : Scope} {x : String} {v : Variable}

theorem resolve_eq (h : AgreeOff x s s') (key : String) : s'.resolve key = s.resolve key := by
  rw [resolve, resolve, h.bound, h.aliases]

theorem set (h : AgreeOff x s s') (key : String) (w : Value) :
    AgreeOff x (s.set key w) (s'.set key w) := by
  refine ⟨h.aliases, h.unnamed, fun k => ?_, fun k hk => ?_⟩
  · rw [has_set, has_set, h.resolve_eq, h.bound]
  · show (s'.values.set (s'.resolve key) w).get? k = (s.values.set (s.resolve key) w).get? k
    rw [h.resolve_eq, Entries.get?_set, Entries.get?_set, h.values k hk]

theorem addAlias (h : AgreeOff x s s') (key name : String) :
    AgreeOff x (s.addAlias key name) (s'.addAlias key name) := by
  unfold Scope.addAlias
  split
  · exact h
  · exact ⟨congrArg (·.set key name) h.aliases, h.unnamed, h.bound, h.values⟩

theorem declare (h : AgreeOff x s s') (v : Variable) (w : Value) :
    AgreeOff x (s.declare v w) (s'.declare v w) := by
  unfold Scope.declare
  dsimp only
  split
  · exact h.set _ w
  · exact (h.set _ w).addAlias _ _

/-- Declarations fail in both scopes in the same way, or leave scopes that differ in
    the same value. -/
theorem declareAll (h : AgreeOff x s s') (modes : Modes) (vs : List Variable) :
    (∃ f, s.declareAll modes vs = .error f ∧ s'.declareAll modes vs = .error f) ∨
      ∃ t t', s.declareAll modes vs = .ok t ∧ s'.declareAll modes vs = .ok t' ∧
        AgreeOff x t t' := by
  induction vs generalizing s s' with
  | nil => exact .inr ⟨s, s', rfl, rfl, h⟩
  | cons v rest ih =>
    rw [Scope.declareAll, Scope.declareAll]
    split
    · exact ih h
    · cases v.value modes with
      | error f => exact .inl ⟨f, rfl, rfl⟩
      | ok w => exact ih (h.declare v w)

/-- A variable that is declared with another value, where its name is looked up under
    itself. -/
theorem declare_value (hv : v.name.isEmpty = false) (hd : s.Direct v.name) (w w' : Value) :
    AgreeOff v.name (s.declare v w) (s.declare v w') := by
  have hset : AgreeOff v.name (s.set v.name w) (s.set v.name w') := by
    refine ⟨rfl, rfl, fun k => ?_, fun k hk => ?_⟩
    · rw [has_set, has_set]
    · show (s.values.set (s.resolve v.name) w').get? k = (s.values.set (s.resolve v.name) w).get? k
      rw [hd, Entries.get?_set_of_ne hk, Entries.get?_set_of_ne hk]
  unfold Scope.declare
  dsimp only
  rw [hv]
  split
  · exact hset
  · exact hset.addAlias _ _

/-- The scopes agree at the keys that do not lead to the name. -/
theorem agree (h : AgreeOff x s s') {K : String → Prop}
    (hK : ∀ key, K key → key ≠ x ∧ s.aliases.get? key ≠ some x) : Agree K s s' := by
  refine ⟨fun key => by rw [h.aliases], h.bound, fun key hkey => ?_⟩
  have hne : s.resolve key ≠ x := by
    obtain ⟨hself, halias⟩ := hK key hkey
    rcases s.resolve_eq_or key with hr | hr
    · rw [← hr]
      exact hself
    · rintro rfl
      exact halias hr
  rw [get?, get?, h.resolve_eq]
  exact h.values _ hne

end AgreeOff

theorem unnamed_writes {s s' : Scope} (h : s'.unnamed = s.unnamed) (ws : List Write) :
    (s'.writes ws).unnamed = (s.writes ws).unnamed := by
  induction ws generalizing s s' with
  | nil => exact h
  | cons w rest ih =>
    refine ih ?_
    cases w with
    | named name v => exact h
    | unnamed key v => exact congrArg (writeUnnamed key v) h

end Scope

/-! ## Steps in scopes that agree -/

namespace Algorithm

open Scope

section Agree

variable {a : Algorithm} {settings : Settings} {K : String → Prop} {s s' : Scope} {step : Step}
  {steps : List Step}

/-- A tree has the same outcome and the same writes in both scopes. -/
theorem evaluateSourced_agree {tree : Sourced Expr} (h : Agree K s s')
    (hreads : ∀ e, tree = .ok (.ok e) → ∀ key ∈ e.reads, K key) :
    ∃ r ws, evaluateSourced tree s = (r, s.writes ws) ∧
      evaluateSourced tree s' = (r, s'.writes ws) := by
  match tree, hreads with
  | .error f, _ => exact ⟨_, [], rfl, rfl⟩
  | .ok (.error e), _ => exact ⟨_, [], rfl, rfl⟩
  | .ok (.ok e), hreads =>
    obtain ⟨hresult, ws, -, hs, hs'⟩ := Expr.evaluate_agree e (hreads e rfl) h
    refine ⟨sourcedOutcome (e.evaluate s).1, ws, ?_, ?_⟩
    · rw [evaluateSourced_tree, hs]
    · rw [evaluateSourced_tree, hs', hresult]

/-- So has a step. A failure shows the iteration value of its scope. -/
theorem runStep_agree (h : Agree K s s') (hn : K iterationName)
    (hreads : ∀ e, a.RunsTree settings step e → ∀ key ∈ e.reads, K key) :
    ∃ outcome ws warnings, a.runStep settings step s = ⟨outcome, s.writes ws, warnings⟩ ∧
      a.runStep settings step s' = ⟨outcome, s'.writes ws, warnings⟩ := by
  unfold runStep
  cases ht : a.target settings step with
  | error warning => exact ⟨_, [], _, rfl, rfl⟩
  | ok t =>
    obtain ⟨r, ws, hs, hs'⟩ := evaluateSourced_agree h fun e he => hreads e ⟨t, ht, he⟩
    dsimp only
    rw [hs, hs']
    match r with
    | .error f => exact ⟨_, ws, _, rfl, rfl⟩
    | .ok (.error e) =>
      have hiteration := (h.writes ws).reads iterationName hn
      dsimp only
      rw [hiteration]
      exact ⟨_, ws, _, rfl, rfl⟩
    | .ok (.ok v) =>
      dsimp only
      cases t.result v <;> exact ⟨_, ws, _, rfl, rfl⟩

/-- And so have steps one after the other. -/
theorem runSteps_agree (h : Agree K s s') (hn : K iterationName)
    (hreads : ∀ step ∈ steps, ∀ e, a.RunsTree settings step e → ∀ key ∈ e.reads, K key)
    (p : Progress) :
    ∃ outcome ws warnings, a.runSteps settings steps p s = ⟨outcome, s.writes ws, warnings⟩ ∧
      a.runSteps settings steps p s' = ⟨outcome, s'.writes ws, warnings⟩ := by
  induction steps generalizing p s s' with
  | nil => exact ⟨_, [], _, rfl, rfl⟩
  | cons step rest ih =>
    rw [List.forall_mem_cons] at hreads
    obtain ⟨outcome, ws, warnings, hs, hs'⟩ := runStep_agree h hn hreads.1
    rw [runSteps, runSteps, hs, hs']
    match outcome with
    | .error e => exact ⟨_, ws, _, rfl, rfl⟩
    | .ok none =>
      obtain ⟨outcome, more, warnings', hr, hr'⟩ := ih (h.writes ws) hreads.2 p
      dsimp only
      rw [hr, hr']
      exact ⟨outcome, ws ++ more, _, by rw [writes_append], by rw [writes_append]⟩
    | .ok (some v) =>
      obtain ⟨outcome, more, warnings', hr, hr'⟩ :=
        ih (h.writes ws) hreads.2 (a.advance step v p)
      dsimp only
      rw [hr, hr']
      exact ⟨outcome, ws ++ more, _, by rw [writes_append], by rw [writes_append]⟩

end Agree

/-! ## Variables that are not read -/

section Unread

variable {a : Algorithm} {settings : Settings} {key x : String}

/-- The key is the name, or the id of a variable with the name. -/
def LeadsTo (a : Algorithm) (key x : String) : Prop :=
  key = x ∨ ∃ v ∈ a.variables, v.id.isEmpty = false ∧ v.id = key ∧ v.name = x

instance (a : Algorithm) (key x : String) : Decidable (a.LeadsTo key x) :=
  inferInstanceAs (Decidable (_ ∨ _))

/-- The name is not empty, its variables are the only ones with the keys that lead to it,
    and where a step looks something up under such a key, the analysis lists the key among
    what formulas and conditions read. -/
structure SeesReads (a : Algorithm) (settings : Settings) (x : String) : Prop where
  named : x.isEmpty = false
  own : ∀ v ∈ a.variables, v.name.isEmpty = false → a.LeadsTo v.id x → v.name = x
  seen : ∀ step ∈ a.steps, ∀ e, a.RunsTree settings step e → ∀ key ∈ e.reads,
    a.LeadsTo key x → key ∉ reservedNames →
      ∃ node ∈ a.bareNodes settings.language, key ∈ node.inputs

theorem LeadsTo.isEmpty_eq (h : a.LeadsTo key x) (hx : x.isEmpty = false) :
    key.isEmpty = false := by
  rcases h with rfl | ⟨v, -, hid, rfl, -⟩
  · exact hx
  · exact hid

/-- Without stored trees the analysis misses nothing but the first parts of the names that
    are called. -/
theorem seesReads_of_noStoredTree (hstored : a.NoStoredTree) (hx : x.isEmpty = false)
    (hown : ∀ v ∈ a.variables, v.name.isEmpty = false → a.LeadsTo v.id x → v.name = x)
    (hcalls : ∀ step ∈ a.steps, ∀ e, a.RunsTree settings step e → ∀ key ∈ e.callHeads,
      a.LeadsTo key x → key ∈ reservedNames) : a.SeesReads settings x := by
  refine ⟨hx, hown, fun step hstep e he key hkey hleads hr => ?_⟩
  rcases Expr.mem_reads_cases e (hleads.isEmpty_eq hx) hkey with hmention | hcall
  · obtain ⟨node, hnode, -, -, hinputs, -⟩ := exists_node hstored he
    exact ⟨node, hnode, hinputs ▸ Expr.mem_variableNames_iff.mpr hmention⟩
  · exact absurd (hcalls step hstep e he key hcall hleads) hr

/-- Uses under a key that leads to the name are recorded for it. -/
theorem SeesReads.recordedFor_eq (h : a.SeesReads settings x) (hkey : a.LeadsTo key x) :
    recordedFor a.idNames key = x := by
  unfold recordedFor idNames
  cases hget : Entries.get? key (Entries.ofPairs ((a.variables.filter fun v =>
      !v.id.isEmpty && !v.name.isEmpty).map fun v => (v.id, v.name))) with
  | some name =>
    obtain ⟨v, hv, he⟩ := List.mem_map.mp (Entries.mem_of_get?_ofPairs hget)
    obtain ⟨rfl, rfl⟩ := Prod.mk.inj he
    obtain ⟨hv, hfilled⟩ := List.mem_filter.mp hv
    have hname : v.name.isEmpty = false := by
      rw [Bool.and_eq_true, Bool.not_eq_true', Bool.not_eq_true'] at hfilled
      exact hfilled.2
    exact h.own v hv hname hkey
  | none =>
    rcases hkey with rfl | ⟨v, hv, hid, rfl, hname⟩
    · rfl
    · have hmem : v.id ∈ ((a.variables.filter fun v => !v.id.isEmpty && !v.name.isEmpty).map
          fun v => (v.id, v.name)).map Prod.fst := by
        refine List.mem_map.mpr ⟨_, List.mem_map_of_mem (List.mem_filter.mpr ⟨hv, ?_⟩), rfl⟩
        rw [hid, hname, h.named]
        rfl
      have hhas := (Entries.has_ofPairs _ _).mpr hmem
      rw [Entries.has, hget] at hhas
      cases hhas

/-- Where the analysis sees what leads to the name and reports it as unused, no step
    looks anything up that leads to it, except for names that every run binds. -/
theorem SeesReads.not_leadsTo (h : a.SeesReads settings x)
    (hreported : a.Reports settings.language .warning x) {step : Step} (hstep : step ∈ a.steps)
    {e : Expr} (he : a.RunsTree settings step e) (hkey : key ∈ e.reads)
    (hr : key ∉ reservedNames) : ¬ a.LeadsTo key x := by
  intro hleads
  obtain ⟨node, hnode, hinput⟩ := h.seen step hstep e he key hkey hleads hr
  exact (reports_warning_iff.mp hreported).2 node hnode key hinput (h.recordedFor_eq hleads)

end Unread

/-! ## Another default -/

end Algorithm

/-- The variable with another default. -/
def Variable.withDefault (v : Variable) (d : Value) : Variable :=
  { v with default := d }

/-- The algorithm with another default for the variable at a place. -/
def Algorithm.withDefault (a : Algorithm) (i : Nat) (d : Value) : Algorithm :=
  { a with «variables» := a.variables.modify i (·.withDefault d) }

/-- What a run shows apart from its final bindings. -/
def Run.shown (r : Run) : Entries Value × Number × Value :=
  (r.results, r.iteration, r.final)

namespace Algorithm

open Scope

section Default

variable {a : Algorithm} {settings : Settings} {i : Nat} {v : Variable} {d : Value} {modes : Modes}

/-- Only the scope at the start depends on defaults. -/
theorem runSteps_withDefault (steps : List Step) (p : Progress) (s : Scope) :
    (a.withDefault i d).runSteps settings steps p s = a.runSteps settings steps p s := by
  induction steps generalizing p s with
  | nil => rfl
  | cons step rest ih =>
    have hstep : (a.withDefault i d).runStep settings step s = a.runStep settings step s := rfl
    have hadvance : ∀ v, (a.withDefault i d).advance step v p = a.advance step v p := fun v => rfl
    rw [runSteps, runSteps, hstep]
    simp only [ih, hadvance]

/-- The variables around the one whose default is replaced. -/
theorem exists_variables_split (hv : a.variables[i]? = some v) (d : Value) :
    ∃ before after, a.variables = before ++ v :: after ∧
      (a.withDefault i d).variables = before ++ v.withDefault d :: after := by
  obtain ⟨hi, rfl⟩ := List.getElem?_eq_some_iff.mp hv
  refine ⟨a.variables.take i, a.variables.drop (i + 1), ?_, List.modify_eq_take_cons_drop hi⟩
  rw [← List.drop_eq_getElem_cons hi, List.take_append_drop]

/-- Where no other variable has the name as its id, it is looked up under itself when its
    variable is declared. -/
theorem SeesReads.direct (hsees : a.SeesReads settings v.name) {vs : List Variable} {s : Scope}
    (hvs : ∀ u ∈ vs, u ∈ a.variables) (hs : Scope.empty.declareAll modes vs = .ok s) :
    s.Direct v.name := by
  rcases s.resolve_eq_or v.name with hr | hr
  · exact hr.symm
  · obtain ⟨u, hu, -, hname, hid, hresolve⟩ := exists_of_alias hs hr
    exact hresolve.symm.trans (hsees.own u (hvs u hu) hname (.inl hid))

/-- The declarations fail in the same way, or leave scopes that differ in the value of
    the variable. -/
theorem declareAll_withDefault (hv : a.variables[i]? = some v)
    (hsees : a.SeesReads settings v.name) (hvalue : ∃ w, v.value modes = .ok w)
    (hvalue' : ∃ w, (v.withDefault d).value modes = .ok w) :
    (∃ f, Scope.empty.declareAll modes a.variables = .error f ∧
      Scope.empty.declareAll modes (a.withDefault i d).variables = .error f) ∨
    ∃ t t', Scope.empty.declareAll modes a.variables = .ok t ∧
      Scope.empty.declareAll modes (a.withDefault i d).variables = .ok t' ∧
      AgreeOff v.name t t' := by
  obtain ⟨before, after, hvs, hvs'⟩ := exists_variables_split hv d
  obtain ⟨w, hw⟩ := hvalue
  obtain ⟨w', hw'⟩ := hvalue'
  have hn : v.name.isEmpty = false := hsees.named
  have hn' : (v.withDefault d).name.isEmpty = false := hn
  have hbefore : ∀ u ∈ before, u ∈ a.variables := fun u hu => hvs ▸ List.mem_append_left _ hu
  rw [hvs', hvs, declareAll_append, declareAll_append]
  cases hb : Scope.empty.declareAll modes before with
  | error f => exact .inl ⟨f, rfl, rfl⟩
  | ok b =>
    have hdeclared : AgreeOff v.name (b.declare v w) (b.declare v w') :=
      AgreeOff.declare_value hn (hsees.direct hbefore hb) w w'
    rw [ok_bind, ok_bind, declareAll_cons hn, declareAll_cons hn', hw, hw', ok_bind, ok_bind]
    exact hdeclared.declareAll modes after

/-- In the scopes at the start all keys read the same that do not lead to the name. -/
theorem scope_withDefault (hv : a.variables[i]? = some v) (hsees : a.SeesReads settings v.name)
    (hvalue : ∃ w, v.value modes = .ok w) (hvalue' : ∃ w, (v.withDefault d).value modes = .ok w)
    (iteration : Value) (context : Entries Value) :
    (∃ f, a.scope iteration context modes = .error f ∧
      (a.withDefault i d).scope iteration context modes = .error f) ∨
    ∃ s s', a.scope iteration context modes = .ok s ∧
      (a.withDefault i d).scope iteration context modes = .ok s' ∧ s'.unnamed = s.unnamed ∧
      Agree (fun key => key ∈ reservedNames ∨ ¬ a.LeadsTo key v.name) s s' := by
  rcases declareAll_withDefault hv hsees hvalue hvalue' with ⟨f, ht, ht'⟩ | ⟨t, t', ht, ht', h⟩
  · exact .inl ⟨f, by rw [scope, ht]; rfl, by rw [scope, ht']; rfl⟩
  · have hdeclared : Agree (fun key => ¬ a.LeadsTo key v.name) t t' := by
      refine h.agree fun key hkey => ⟨fun he => hkey (.inl he), fun halias => ?_⟩
      obtain ⟨u, hu, hid, -, hleads⟩ := exists_of_alias ht halias
      exact hkey (.inr ⟨u, hu, hid, hleads⟩)
    -- The same bindings are added to both scopes.
    let given := context.filter fun p => p.1 != iterationName
    have hs : a.scope iteration context modes =
        .ok ((t.setAll given).setAll (addedBindings iteration)) := by
      rw [scope, ht]
      rfl
    have hs' : (a.withDefault i d).scope iteration context modes =
        .ok ((t'.setAll given).setAll (addedBindings iteration)) := by
      rw [scope, ht']
      rfl
    refine .inr ⟨_, _, hs, hs', ?_, ?_⟩
    · simp only [unnamed_setAll, h.unnamed]
    · refine ((hdeclared.setAll given).setAll (addedBindings iteration)).mono fun key hkey => ?_
      exact hkey.imp (fun hr => hr) fun hne => .inr hne

/-- The runs from scopes that agree like that show the same. -/
theorem ofProgress_agree {p : Progress} {iteration : Value} {s s' : Scope}
    (h : s'.unnamed = s.unnamed) :
    (Run.ofProgress p iteration s').map Run.shown =
      (Run.ofProgress p iteration s).map Run.shown := by
  have hissues : s'.unnamedIssues = s.unnamedIssues := by rw [unnamedIssues, h, unnamedIssues]
  unfold Run.ofProgress
  rw [hissues]
  cases (PartReader.number iteration).within (.key "iteration_value") with
  | bad more => rfl
  | ok n =>
    dsimp only
    split <;> rfl

/-- A variable is reported as unused, the analysis sees what leads to it, and its default
    and the new one are values of its type. Then with the new default a run ends in the
    same way: with the same results and final value, or with the same failure at the same
    step. -/
theorem run_withDefault (hv : a.variables[i]? = some v)
    (hreported : a.Reports settings.language .warning v.name)
    (hsees : a.SeesReads settings v.name) (hvalue : ∃ w, v.value modes = .ok w)
    (hvalue' : ∃ w, (v.withDefault d).value modes = .ok w) (iteration : Value)
    (context : Entries Value) :
    ((a.withDefault i d).run settings iteration context modes).1.map Run.shown =
        (a.run settings iteration context modes).1.map Run.shown ∧
      ((a.withDefault i d).run settings iteration context modes).2 =
        (a.run settings iteration context modes).2 := by
  unfold run recordedScope
  cases iteration.plain with
  | error f => exact ⟨rfl, rfl⟩
  | ok text =>
    rw [ok_bind, ok_bind]
    rcases scope_withDefault hv hsees hvalue hvalue' iteration context with
      ⟨f, hs, hs'⟩ | ⟨s, s', hs, hs', hunnamed, hagree⟩
    · rw [hs, hs']
      exact ⟨rfl, rfl⟩
    · have hreads : ∀ step ∈ a.steps, ∀ e, a.RunsTree settings step e → ∀ key ∈ e.reads,
          key ∈ reservedNames ∨ ¬ a.LeadsTo key v.name := by
        intro step hstep e he key hkey
        by_cases hr : key ∈ reservedNames
        · exact .inl hr
        · exact .inr (hsees.not_leadsTo hreported hstep he hkey hr)
      obtain ⟨outcome, ws, warnings, hrun, hrun'⟩ :=
        runSteps_agree hagree (.inl List.mem_cons_self) hreads ⟨[], .null⟩
      have hsteps : (a.withDefault i d).steps = a.steps := rfl
      rw [hs, hs']
      dsimp only
      rw [runSteps_withDefault, hsteps, hrun, hrun']
      match outcome with
      | .error e => exact ⟨rfl, rfl⟩
      | .ok p => exact ⟨ofProgress_agree (unnamed_writes hunnamed ws), rfl⟩

end Default

/-- A variable that is true. -/
def flag (id name : String) : Variable :=
  ⟨id, name, some .boolean, .bool true, none, false, none, none⟩

/-- The variables `wide` and `deep`; a formula assigns `deep`, and another one reads `wide`
    by its id. -/
def deepAssigned : Algorithm :=
  ofTexts "dimension" [flag "v1" "wide", flag "v2" "deep"] [("F1", "deep = wide"), ("F2", "!v1")]

set_option maxRecDepth 10000 in
/-- An assigned variable that is read nowhere is unused. -/
theorem run_withDefault_deep :
    deepAssigned.Reports Settings.default.language .warning "deep" ∧
      ((deepAssigned.withDefault 1 (.text "no")).run Settings.default (.num (.int 0)) []
          []).1.map Run.shown =
        (deepAssigned.run Settings.default (.num (.int 0)) [] []).1.map Run.shown ∧
      ((deepAssigned.run Settings.default (.num (.int 0)) [] []).1.toOption.map
        (·.final.identical (.bool false))) = some true := by
  have hreported : deepAssigned.Reports Settings.default.language .warning "deep" := by
    unfold Reports
    decide
  obtain ⟨note, hfirst⟩ : ∃ note, deepAssigned.RunsTree Settings.default
      ⟨some .formula, "F1", "F1"⟩ (.assign (.text "deep") (.var (.text "wide") none) note) :=
    ⟨_, _, rfl, rfl⟩
  obtain ⟨note', hsecond⟩ : ∃ note, deepAssigned.RunsTree Settings.default
      ⟨some .formula, "F2", "F2"⟩ (.unary (.text "!") (.var (.text "v1") none) note) :=
    ⟨_, _, rfl, rfl⟩
  have hstored : deepAssigned.NoStoredTree := by
    unfold NoStoredTree
    decide
  have hsees : deepAssigned.SeesReads Settings.default "deep" := by
    refine seesReads_of_noStoredTree hstored (by decide) (by decide) ?_
    intro step hstep e he key hkey
    rcases List.mem_cons.mp hstep with rfl | hstep
    · rw [runsTree_unique hfirst he] at hkey
      cases hkey
    · rw [List.mem_singleton.mp hstep] at he
      rw [runsTree_unique hsecond he] at hkey
      cases hkey
  have hv : deepAssigned.variables[1]? = some (flag "v2" "deep") := rfl
  have hvalue : (flag "v2" "deep").value [] = .ok (.bool true) := rfl
  have hvalue' : ((flag "v2" "deep").withDefault (.text "no")).value [] = .ok (.bool false) := rfl
  have hruns := run_withDefault hv hreported hsees ⟨_, hvalue⟩ ⟨_, hvalue'⟩ (.num (.int 0)) []
  exact ⟨hreported, hruns.1, by decide +kernel⟩

/-- The variable `b`, and after it the variable `a` with the id `b`; a formula reads `b`. -/
def crossedIds : Algorithm :=
  ofTexts "dimension" [flag "c" "b", flag "b" "a"] [("F1", "b")]

set_option maxRecDepth 10000 in
/-- The variable `b` is reported as unused, because its name is the id of the other one; but
    a run gives its default. -/
theorem not_run_withDefault :
    crossedIds.NoStoredTree ∧ crossedIds.Reports Settings.default.language .warning "b" ∧
      ((crossedIds.run Settings.default (.num (.int 0)) [] []).1.toOption.map
        (·.final.identical (.bool true))) = some true ∧
      (((crossedIds.withDefault 0 (.bool false)).run Settings.default (.num (.int 0)) []
        []).1.toOption.map (·.final.identical (.bool false))) = some true := by
  refine ⟨?_, ?_, by decide +kernel, by decide +kernel⟩
  · unfold NoStoredTree
    decide
  · unfold Reports
    decide

end Algorithm
end TokenFormula
