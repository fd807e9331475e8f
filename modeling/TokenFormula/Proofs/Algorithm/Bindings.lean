import Mathlib.Tactic.ByContra
import Mathlib.Tactic.Push
import TokenFormula.Proofs.Algorithm.Step
import TokenFormula.Proofs.Expr.Outcome
import TokenFormula.Proofs.Scope

/-!
# The bindings at the start of a run

Variables are declared in order, each under its name with its id as an alias.
An id that is the name of a later variable, or a name that every run binds,
stands for its own variable by the time the other is bound, so that the value
goes to the wrong place. Apart from that, each name reads its own value.

Results:
* `declareAll_keeps`, `exists_of_alias`: what declarations keep, and the aliases they add.
* `scope_binds_iff`: which ids keep the bindings apart.
* `not_scope_binds`: an id that is the name of a later variable.
-/

namespace TokenFormula

/-- The names that every run binds. -/
def reservedNames : List String :=
  iterationName :: tables.keys

/-- The variables have names and ids of their own, and no name is reserved. -/
structure WellNamed (vs : List Variable) : Prop where
  names_nodup : (vs.map Variable.name).Nodup
  named : ∀ v ∈ vs, v.name.isEmpty = false
  unreserved : ∀ v ∈ vs, v.name ∉ reservedNames
  ids_nodup : (vs.map Variable.id).Nodup
  identified : ∀ v ∈ vs, v.id.isEmpty = false

/-- No id is a reserved name or the name of a variable that is declared later. -/
def SeparateIds (vs : List Variable) : Prop :=
  (∀ v ∈ vs, v.id ∉ reservedNames) ∧ vs.Pairwise fun u v => u.id ≠ v.name

/-- Each variable reads what the caller gives for it, or its own value; the
    iteration value and the tables of functions read as themselves. -/
def Binds (vs : List Variable) (modes : Modes) (iteration : Value) (context : Entries Value)
    (s : Scope) : Prop :=
  (∀ v ∈ vs, ∃ w, v.value modes = .ok w ∧
    s.get? v.name = some ((context.get? v.name).getD w)) ∧
  s.get? iterationName = some iteration ∧ ∀ p ∈ tables, s.get? p.1 = some p.2

theorem WellNamed.sublist {us vs : List Variable} (h : WellNamed vs) (hs : us.Sublist vs) :
    WellNamed us where
  names_nodup := h.names_nodup.sublist (hs.map _)
  named v hv := h.named v (hs.subset hv)
  unreserved v hv := h.unreserved v (hs.subset hv)
  ids_nodup := h.ids_nodup.sublist (hs.map _)
  identified v hv := h.identified v (hs.subset hv)

section Cons

variable {u v : Variable} {rest : List Variable}

theorem WellNamed.tail (h : WellNamed (v :: rest)) : WellNamed rest :=
  h.sublist (List.sublist_cons_self ..)

theorem WellNamed.name_ne (h : WellNamed (v :: rest)) (hu : u ∈ rest) : u.name ≠ v.name :=
  fun he => (List.nodup_cons.mp h.names_nodup).1 (List.mem_map.mpr ⟨u, hu, he⟩)

theorem WellNamed.id_ne (h : WellNamed (v :: rest)) (hu : u ∈ rest) : u.id ≠ v.id :=
  fun he => (List.nodup_cons.mp h.ids_nodup).1 (List.mem_map.mpr ⟨u, hu, he⟩)

end Cons

namespace Scope

variable {modes : Modes} {s s' : Scope} {v : Variable} {vs rest : List Variable} {k t : String}
  {w : Value}

/-! ## Declarations -/

theorem declareAll_cons (hn : v.name.isEmpty = false) (s : Scope) (rest : List Variable) :
    s.declareAll modes (v :: rest) =
      v.value modes >>= fun w => (s.declare v w).declareAll modes rest := by
  rw [declareAll, hn]
  rfl

theorem declareAll_append (s : Scope) (vs rest : List Variable) :
    s.declareAll modes (vs ++ rest) =
      s.declareAll modes vs >>= fun s => s.declareAll modes rest := by
  induction vs generalizing s with
  | nil => rfl
  | cons v vs ih =>
    rw [List.cons_append, declareAll, declareAll]
    split
    · exact ih s
    · cases v.value modes with
      | error f => rfl
      | ok w => exact ih _

/-- What each declaration keeps, all of them keep. -/
theorem declareAll_keeps {P : Scope → Prop} (h : s.declareAll modes vs = .ok s')
    (hdeclare : ∀ v ∈ vs, ∀ t w, P t → P (t.declare v w)) (hs : P s) : P s' := by
  induction vs generalizing s with
  | nil =>
    cases h
    exact hs
  | cons v rest ih =>
    rw [List.forall_mem_cons] at hdeclare
    rw [declareAll] at h
    split at h
    · exact ih h hdeclare.2 hs
    · obtain ⟨w, -, hrest⟩ := bind_eq_ok h
      exact ih hrest hdeclare.2 (hdeclare.1 s w hs)

/-- The aliases after declarations are the ids of the variables. -/
theorem exists_of_alias {key name : String} (h : Scope.empty.declareAll modes vs = .ok s)
    (ha : s.aliases.get? key = some name) :
    ∃ v ∈ vs, v.id.isEmpty = false ∧ v.name.isEmpty = false ∧ v.id = key ∧ v.name = name := by
  refine declareAll_keeps (P := fun t => ∀ {key name}, t.aliases.get? key = some name →
    ∃ v ∈ vs, v.id.isEmpty = false ∧ v.name.isEmpty = false ∧ v.id = key ∧ v.name = name)
    h ?_ nofun ha
  intro v hv t w ht key name hget
  unfold declare at hget
  dsimp only at hget
  split at hget
  · exact ht hget
  · rename_i hfilled
    rw [Bool.or_eq_true, not_or, Bool.not_eq_true, Bool.not_eq_true] at hfilled
    by_cases hkey : key = v.id
    · subst hkey
      rcases alias_addAlias_or (t.set _ w) v.id v.name with hnew | hold
      · rw [hnew] at hget
        exact ⟨v, hv, hfilled.2, hfilled.1, rfl, Option.some.inj hget⟩
      · rw [hold] at hget
        exact ht hget
    · rw [alias_addAlias_of_ne hkey] at hget
      exact ht hget

/-- Variables can be declared if those that have a name or an id have values. -/
theorem exists_declared_iff : (∃ s', s.declareAll modes vs = .ok s') ↔
    ∀ v ∈ vs, (v.name.isEmpty && v.id.isEmpty) = false → ∃ w, v.value modes = .ok w := by
  induction vs generalizing s with
  | nil => simp [declareAll]
  | cons v rest ih =>
    rw [List.forall_mem_cons, declareAll]
    cases v.name.isEmpty && v.id.isEmpty with
    | true => simpa using ih
    | false =>
      cases hw : v.value modes with
      | error f => simp [error_bind]
      | ok w => simpa [ok_bind] using ih

/-- Variables can be declared if they have values. -/
theorem exists_declareAll_iff (hn : ∀ v ∈ vs, v.name.isEmpty = false) :
    (∃ s', s.declareAll modes vs = .ok s') ↔ ∀ v ∈ vs, ∃ w, v.value modes = .ok w := by
  refine exists_declared_iff.trans ⟨fun h v hv => h v hv ?_, fun h v hv _ => h v hv⟩
  rw [hn v hv, Bool.false_and]

/-- A variable under its name, with its id as an alias. -/
def bindVariable (s : Scope) (v : Variable) (w : Value) : Scope :=
  (s.set v.name w).addAlias v.id v.name

/-- The first declaration, and the others after it. -/
theorem declareAll_ok_cons (hw : WellNamed (v :: rest))
    (h : s.declareAll modes (v :: rest) = .ok s') :
    ∃ w, v.value modes = .ok w ∧ (s.bindVariable v w).declareAll modes rest = .ok s' := by
  have hn := hw.named v (List.mem_cons_self ..)
  have hi := hw.identified v (List.mem_cons_self ..)
  rw [declareAll_cons hn] at h
  obtain ⟨w, hv, hrest⟩ := bind_eq_ok h
  have heq : s.declare v w = s.bindVariable v w := by simp [declare, bindVariable, hn, hi]
  exact ⟨w, hv, heq ▸ hrest⟩

/-! ## Names that stay direct -/

theorem bindVariable_direct (hv : s.Direct v.name) (hk : s.Direct k) (hne : k ≠ v.name)
    (hid : s.values.has k = true ∨ v.id ≠ k) (w : Value) :
    (s.bindVariable v w).Direct k ∧ (s.bindVariable v w).get? k = s.get? k := by
  have hapart : k ≠ v.id ∨ (s.set v.name w).values.has k = true := by
    rcases hid with hid | hid
    · right
      rw [has_set, hid, Bool.or_true]
    · exact .inl hid.symm
  refine ⟨(hk.set _ w).addAlias hapart, ?_⟩
  rw [bindVariable, get?_addAlias hapart, get?_set_of_direct hv hk, if_neg hne]

theorem bindVariable_self (hv : s.Direct v.name) (w : Value) :
    (s.bindVariable v w).values.has v.name = true ∧
      (s.bindVariable v w).get? v.name = some w := by
  have hbound : (s.set v.name w).values.has v.name = true := by
    rw [has_set, hv, beq_self_eq_true, Bool.true_or]
  refine ⟨by rw [bindVariable, values_addAlias]; exact hbound, ?_⟩
  rw [bindVariable, get?_addAlias (.inr hbound), get?_set_of_direct hv hv, if_pos rfl]

/-- Declarations leave a direct key that is no name among them, unless it is one
    of their ids and not bound. -/
theorem declareAll_direct (hw : WellNamed vs) (hids : vs.Pairwise fun u v => u.id ≠ v.name)
    (h : s.declareAll modes vs = .ok s') (hd : ∀ v ∈ vs, s.Direct v.name)
    (hk : s.Direct k) (hne : ∀ v ∈ vs, k ≠ v.name)
    (hid : s.values.has k = true ∨ ∀ v ∈ vs, v.id ≠ k) :
    s'.Direct k ∧ s'.get? k = s.get? k := by
  induction vs generalizing s with
  | nil =>
    cases h
    exact ⟨hk, rfl⟩
  | cons v rest ih =>
    obtain ⟨w, -, hrest⟩ := declareAll_ok_cons hw h
    rw [List.forall_mem_cons] at hd hne
    rw [List.pairwise_cons] at hids
    have hstep := bindVariable_direct hd.1 hk hne.1
      (hid.imp_right fun hid => hid v (List.mem_cons_self ..)) w
    have hbound : (s.bindVariable v w).values.has k = true ∨ ∀ v ∈ rest, v.id ≠ k := by
      rcases hid with hid | hid
      · left
        rw [bindVariable, values_addAlias, has_set, hid, Bool.or_true]
      · exact .inr fun x hx => hid x (List.mem_cons_of_mem _ hx)
    have hdirect : ∀ x ∈ rest, (s.bindVariable v w).Direct x.name := by
      intro x hx
      exact (bindVariable_direct hd.1 (hd.2 x hx) (hw.name_ne hx) (.inr (hids.1 x hx)) w).1
    obtain ⟨hdk, hget⟩ := ih hw.tail hids.2 hrest hdirect hstep.1
      hne.2 hbound
    exact ⟨hdk, hget.trans hstep.2⟩

/-- Declared variables read their values, if no id is the name of a later one. -/
theorem declareAll_values (hw : WellNamed vs) (hids : vs.Pairwise fun u v => u.id ≠ v.name)
    (h : s.declareAll modes vs = .ok s') (hd : ∀ v ∈ vs, s.Direct v.name) :
    ∀ v ∈ vs, ∃ w, v.value modes = .ok w ∧ s'.Direct v.name ∧ s'.get? v.name = some w := by
  induction vs generalizing s with
  | nil => simp
  | cons v rest ih =>
    obtain ⟨w, hv, hrest⟩ := declareAll_ok_cons hw h
    have hwrest := hw.tail
    rw [List.forall_mem_cons] at hd
    rw [List.pairwise_cons] at hids
    have hne : ∀ x ∈ rest, v.name ≠ x.name := fun x hx => (hw.name_ne hx).symm
    have hdirect : ∀ x ∈ rest, (s.bindVariable v w).Direct x.name := fun x hx =>
      (bindVariable_direct hd.1 (hd.2 x hx) (hw.name_ne hx) (.inr (hids.1 x hx)) w).1
    obtain ⟨hbound, hget⟩ := bindVariable_self hd.1 w
    rw [List.forall_mem_cons]
    refine ⟨⟨w, hv, ?_⟩, ih hwrest hids.2 hrest hdirect⟩
    have hself := declareAll_direct hwrest hids.2 hrest hdirect (direct_of_has hbound) hne
      (.inl hbound)
    exact ⟨hself.1, hself.2.trans hget⟩

/-! ## Names that are missed -/

theorem Unreached.bindVariable {keys : String → Prop} (h : Unreached keys t s)
    (hv : keys v.name) (hne : v.name ≠ t) (w : Value) :
    Unreached keys t (s.bindVariable v w) :=
  (h.set hv hne w).addAlias hne

/-- Declarations of other names leave a name that they do not reach. -/
theorem Unreached.declareAll {keys : String → Prop} (hw : WellNamed vs)
    (hd : s.declareAll modes vs = .ok s') (h : Unreached keys t s)
    (hkeys : ∀ v ∈ vs, keys v.name) (hne : ∀ v ∈ vs, v.name ≠ t) : Unreached keys t s' := by
  induction vs generalizing s with
  | nil =>
    cases hd
    exact h
  | cons v rest ih =>
    obtain ⟨w, -, hrest⟩ := declareAll_ok_cons hw hd
    rw [List.forall_mem_cons] at hkeys hne
    exact ih hw.tail hrest (h.bindVariable hkeys.1 hne.1 w)
      hkeys.2 hne.2

/-- An alias stays if its key is no id among the declarations. -/
theorem alias_declareAll (hw : WellNamed vs) (hd : s.declareAll modes vs = .ok s')
    (hid : ∀ v ∈ vs, v.id ≠ k) : s'.aliases.get? k = s.aliases.get? k := by
  induction vs generalizing s with
  | nil =>
    cases hd
    rfl
  | cons v rest ih =>
    obtain ⟨w, -, hrest⟩ := declareAll_ok_cons hw hd
    rw [List.forall_mem_cons] at hid
    rw [ih hw.tail hrest hid.2, bindVariable,
      alias_addAlias_of_ne hid.1.symm, aliases_set]

/-- The id of a declared variable is an alias of its name. -/
theorem alias_id (hw : WellNamed vs) (hd : s.declareAll modes vs = .ok s') (hv : v ∈ vs)
    (hne : v.id ≠ v.name) : s'.aliases.get? v.id = some v.name := by
  induction vs generalizing s with
  | nil => cases hv
  | cons x rest ih =>
    obtain ⟨w, -, hrest⟩ := declareAll_ok_cons hw hd
    have hwrest := hw.tail
    rcases List.mem_cons.mp hv with rfl | hmem
    · rw [alias_declareAll hwrest hrest fun y hy => hw.id_ne hy]
      exact alias_addAlias_self (hw.identified v (List.mem_cons_self ..)) hne
    · exact ih hwrest hrest hmem

/-- An id that is no name among the declarations stays an unbound alias, and no
    alias stands for it. -/
theorem declareAll_unbound (hw : WellNamed vs) (hd : Scope.empty.declareAll modes vs = .ok s')
    (hv : v ∈ vs) (hne : ∀ x ∈ vs, x.name ≠ v.id) :
    Unreached (fun _ => True) v.id s' ∧ s'.aliases.get? v.id = some v.name := by
  have hempty : Unreached (fun _ => True) v.id Scope.empty := ⟨rfl, fun k _ hk => by cases hk⟩
  exact ⟨hempty.declareAll hw hd (fun _ _ => trivial) hne, alias_id hw hd hv (hne v hv).symm⟩

/-- Where an id is the name of a later variable, and the id of that one is no
    later name, the later name stays an unbound alias. -/
theorem declareAll_missed {u : Variable} {before after : List Variable}
    (hw : WellNamed (before ++ v :: after)) (hu : u ∈ before) (huv : u.id = v.name)
    (hafter : ∀ x ∈ after, v.id ≠ x.name)
    (hd : Scope.empty.declareAll modes (before ++ v :: after) = .ok s') :
    s'.values.has v.name = false ∧ s'.aliases.get? v.name = some u.name := by
  have hwbefore := hw.sublist (List.sublist_append_left ..)
  have hwrest := hw.sublist (List.sublist_append_right ..)
  have hwafter := hwrest.tail
  have hnames := hw.names_nodup
  have hids := hw.ids_nodup
  rw [List.map_append, List.map_cons, List.nodup_append] at hnames hids
  have hname : ∀ x ∈ before, x.name ≠ v.name := fun x hx =>
    hnames.2.2 _ (List.mem_map.mpr ⟨x, hx, rfl⟩) _ (List.mem_cons_self ..)
  have hid : ∀ x ∈ v :: after, x.id ≠ v.name := fun x hx he =>
    hids.2.2 _ (List.mem_map.mpr ⟨u, hu, rfl⟩) _
      (List.mem_map.mpr ⟨x, hx, rfl⟩) (huv.trans he.symm)
  rw [declareAll_append] at hd
  obtain ⟨b, hb, hd⟩ := bind_eq_ok hd
  obtain ⟨w, -, hrest⟩ := declareAll_ok_cons hwrest hd
  -- up to here the name is neither bound nor what an alias stands for
  obtain ⟨hfree, halias⟩ := declareAll_unbound hwbefore hb hu (huv ▸ hname)
  rw [huv] at hfree halias
  -- its own declaration goes to the name of the earlier variable
  have hmissed : (b.bindVariable v w).values.has v.name = false := by
    have hne : v.name ≠ u.name := (hname u hu).symm
    rw [bindVariable, values_addAlias, has_set, resolve_of_alias hfree.1 halias, hfree.1,
      beq_eq_false_iff_ne.mpr hne, Bool.false_or]
  have hunreached : Unreached (· ∈ after.map Variable.name) v.name (b.bindVariable v w) := by
    refine ⟨hmissed, fun k hk => ?_⟩
    obtain ⟨x, hx, rfl⟩ := List.mem_map.mp hk
    rw [bindVariable, alias_addAlias_of_ne (hafter x hx).symm]
    exact hfree.2 x.name trivial
  constructor
  · exact (hunreached.declareAll hwafter hrest (fun x hx => List.mem_map.mpr ⟨x, hx, rfl⟩)
      fun x hx => hwrest.name_ne hx).1
  · rw [List.forall_mem_cons] at hid
    rw [alias_declareAll hwafter hrest hid.2, bindVariable, alias_addAlias_of_ne hid.1.symm]
    exact halias

end Scope

/-! ## Whole scopes -/

/-- The bindings that every run adds. -/
def addedBindings (iteration : Value) : Entries Value :=
  (iterationName, iteration) :: tables

section Whole

variable {a : Algorithm} {modes : Modes} {iteration : Value} {context : Entries Value} {s : Scope}

/-- The scope of a run whose caller gives values of variables. -/
theorem scope_eq_ok_iff (hw : WellNamed a.variables)
    (hkeys : ∀ k ∈ context.keys, ∃ v ∈ a.variables, v.name = k) :
    a.scope iteration context modes = .ok s ↔
      ∃ d, Scope.empty.declareAll modes a.variables = .ok d ∧
        s = (d.setAll context).setAll (addedBindings iteration) := by
  have hgiven : context.filter (fun p => p.1 != iterationName) = context := by
    rw [List.filter_eq_self]
    intro p hp
    obtain ⟨v, hv, hname⟩ := hkeys p.1 (List.mem_map.mpr ⟨p, hp, rfl⟩)
    have hfree : p.1 ≠ iterationName := by
      intro he
      exact hw.unreserved v hv (hname.trans he ▸ List.mem_cons_self ..)
    simpa using hfree
  unfold Algorithm.scope
  rw [hgiven]
  cases Scope.empty.declareAll modes a.variables with
  | error f => simp only [error_bind, reduceCtorEq, false_and, exists_false]
  | ok d =>
    simp [ok_bind, pure_eq_ok, eq_comm, addedBindings, Scope.withTables, Scope.setAll]

/-- Ids that are no reserved name and no name of a later variable keep all
    bindings apart. -/
theorem binds_of_separateIds (hw : WellNamed a.variables) (hids : SeparateIds a.variables)
    (hnodup : context.keys.Nodup)
    (hkeys : ∀ k ∈ context.keys, ∃ v ∈ a.variables, v.name = k)
    (hs : a.scope iteration context modes = .ok s) :
    Binds a.variables modes iteration context s := by
  obtain ⟨d, hd, rfl⟩ := (scope_eq_ok_iff hw hkeys).mp hs
  have hempty : ∀ k, Scope.empty.Direct k := fun k => Scope.direct_of_no_alias rfl
  have hvalues := Scope.declareAll_values hw hids.2 hd fun v _ => hempty v.name
  have hreserved : ∀ p ∈ addedBindings iteration, d.Direct p.1 := by
    intro p hp
    have hr : p.1 ∈ reservedNames := List.mem_map.mpr ⟨p, hp, rfl⟩
    have hne : ∀ v ∈ a.variables, p.1 ≠ v.name := fun v hv he => hw.unreserved v hv (he ▸ hr)
    have hid : ∀ v ∈ a.variables, v.id ≠ p.1 := fun v hv he => hids.1 v hv (he ▸ hr)
    exact (Scope.declareAll_direct hw hids.2 hd (fun v _ => hempty v.name) (hempty p.1) hne
      (.inr hid)).1
  have hgiven : ∀ p ∈ context, d.Direct p.1 := by
    intro p hp
    obtain ⟨v, hv, hname⟩ := hkeys p.1 (List.mem_map.mpr ⟨p, hp, rfl⟩)
    obtain ⟨w, -, hdirect, -⟩ := hvalues v hv
    exact hname ▸ hdirect
  have hget {k} (hk : d.Direct k) :
      ((d.setAll context).setAll (addedBindings iteration)).get? k =
        ((addedBindings iteration).get? k).or ((context.get? k).or (d.get? k)) := by
    have hnodup' : (addedBindings iteration).keys.Nodup :=
      show reservedNames.Nodup by decide
    rw [Scope.get?_setAll_of_direct (fun p hp => (hreserved p hp).setAll context) hnodup'
      (hk.setAll context), Scope.get?_setAll_of_direct hgiven hnodup hk]
  refine ⟨?_, ?_, ?_⟩
  · intro v hv
    obtain ⟨w, hw', hdirect, hread⟩ := hvalues v hv
    have hnone : (addedBindings iteration).get? v.name = none :=
      Entries.get?_of_not_mem (hw.unreserved v hv)
    refine ⟨w, hw', ?_⟩
    rw [hget hdirect, hnone, hread]
    cases context.get? v.name <;> rfl
  · rw [hget (hreserved _ (List.mem_cons_self ..))]
    rfl
  · intro p hp
    have hread : (addedBindings iteration).get? p.1 = some p.2 := by
      revert p
      simp [tables, addedBindings, Entries.get?, iterationName]
    rw [hget (hreserved p (List.mem_cons_of_mem _ hp)), hread]
    rfl

/-! ## Ids that are in the way -/

theorem ne_of_mem_addedBindings {p : String × Value} (hp : p ∈ addedBindings .null) (b : Bool) :
    p.2 ≠ .bool b := by
  revert p
  simp [addedBindings, tables]

/-- The caller can give values of variables for which no scope has the right
    bindings. -/
def CanMisbind (a : Algorithm) (modes : Modes) : Prop :=
  ∃ context : Entries Value, context.keys.Nodup ∧
    (∀ k ∈ context.keys, ∃ v ∈ a.variables, v.name = k) ∧
    ∀ s, a.scope .null context modes = .ok s → ¬ Binds a.variables modes .null context s

/-- A variable whose id is a reserved name takes the value that belongs there. -/
theorem canMisbind_of_reserved {v : Variable} (hw : WellNamed a.variables)
    (hv : v ∈ a.variables) (hr : v.id ∈ reservedNames) : CanMisbind a modes := by
  have hkeys : ∀ k ∈ Entries.keys [(v.name, Value.bool true)], ∃ x ∈ a.variables, x.name = k := by
    simpa [Entries.keys] using ⟨v, hv, rfl⟩
  refine ⟨[(v.name, .bool true)], by simp [Entries.keys], hkeys, fun s hs hbinds => ?_⟩
  obtain ⟨d, hd, rfl⟩ := (scope_eq_ok_iff hw hkeys).mp hs
  have hne : ∀ x ∈ a.variables, x.name ≠ v.id := fun x hx he => hw.unreserved x hx (he ▸ hr)
  obtain ⟨hdeclared, halias⟩ := Scope.declareAll_unbound hw hd hv hne
  have hgiven := hdeclared.set trivial (hne v hv) (.bool true)
  have hadded : v.id ∈ (addedBindings .null).keys := hr
  obtain ⟨p, hp, hread⟩ := Scope.get?_setAll_of_alias (s := d.set v.name (.bool true)) halias
    ⟨hgiven.1, fun k _ => hgiven.2 k trivial⟩ hadded
  obtain ⟨w, -, hown⟩ := hbinds.1 v hv
  rw [Entries.get?_cons, if_pos rfl] at hown
  exact ne_of_mem_addedBindings hp true (Option.some.inj (hread.symm.trans hown))

/-- Where an id is the name of a later variable, and the id of that one is no
    later name, the later variable is never bound and reads what the other one
    holds. -/
theorem canMisbind_of_later {u v : Variable} {before after : List Variable}
    (hw : WellNamed a.variables) (hvs : a.variables = before ++ v :: after) (hu : u ∈ before)
    (huv : u.id = v.name) (hafter : ∀ x ∈ after, v.id ≠ x.name) : CanMisbind a modes := by
  have hne : v.name ≠ u.name := by
    have hnames := hw.names_nodup
    rw [hvs, List.map_append, List.nodup_append] at hnames
    exact (hnames.2.2 _ (List.mem_map.mpr ⟨u, hu, rfl⟩) _ (List.mem_cons_self ..)).symm
  have hkeys : ∀ k ∈ Entries.keys [(v.name, Value.bool true), (u.name, .bool false)],
      ∃ x ∈ a.variables, x.name = k := by
    simp only [Entries.keys, List.map_cons, List.map_nil, List.forall_mem_cons, hvs]
    exact ⟨⟨v, by simp, rfl⟩, ⟨u, by simp [hu], rfl⟩, List.forall_mem_nil _⟩
  refine ⟨[(v.name, .bool true), (u.name, .bool false)], by simpa [Entries.keys] using hne, hkeys,
    fun s hs hbinds => ?_⟩
  obtain ⟨d, hd, rfl⟩ := (scope_eq_ok_iff hw hkeys).mp hs
  obtain ⟨hmissed, halias⟩ := Scope.declareAll_missed (hvs ▸ hw) hu huv hafter (hvs ▸ hd)
  have hresolve := Scope.resolve_of_alias hmissed halias
  have hdirect : (d.set v.name (.bool true)).Direct u.name :=
    Scope.direct_of_has (by rw [Scope.has_set, hresolve, beq_self_eq_true, Bool.true_or])
  have hmissed' : (d.set v.name (.bool true)).values.has v.name = false := by
    rw [Scope.has_set, hresolve, beq_eq_false_iff_ne.mpr hne, hmissed, Bool.false_or]
  have hread := Scope.get?_set_of_alias hmissed' halias hdirect hne (.bool false)
  obtain ⟨w, -, hown⟩ := hbinds.1 v (hvs ▸ by simp)
  rw [Entries.get?_cons, if_pos rfl] at hown
  rcases Scope.get?_setAll_or ((d.set v.name (.bool true)).set u.name (.bool false))
    (addedBindings .null) v.name with h | ⟨p, hp, h⟩
  · cases hread.symm.trans (h.symm.trans hown)
  · exact ne_of_mem_addedBindings hp true (Option.some.inj (h.symm.trans hown))

/-- A list that violates a relation has a last element that does. -/
theorem exists_last_violation {α : Type} {R : α → α → Prop} {l : List α} (h : ¬ l.Pairwise R) :
    ∃ before x after, l = before ++ x :: after ∧ (∃ y ∈ before, ¬ R y x) ∧ ∀ z ∈ after, R x z := by
  induction l with
  | nil => exact absurd .nil h
  | cons y rest ih =>
    by_cases hrest : rest.Pairwise R
    · rw [List.pairwise_cons, not_and'] at h
      have hy : ¬ ∀ x ∈ rest, R y x := h hrest
      push Not at hy
      obtain ⟨x, hx, hyx⟩ := hy
      obtain ⟨before, after, rfl⟩ := List.append_of_mem hx
      have hafter := (List.pairwise_append.mp hrest).2.1
      exact ⟨y :: before, x, after, rfl, ⟨y, List.mem_cons_self .., hyx⟩,
        (List.pairwise_cons.mp hafter).1⟩
    · obtain ⟨before, x, after, rfl, ⟨u, hu, hux⟩, hafter⟩ := ih hrest
      exact ⟨y :: before, x, after, rfl, ⟨u, List.mem_cons_of_mem _ hu, hux⟩, hafter⟩

/-- An id that is in the way makes some scope wrong. -/
theorem canMisbind_of_not_separateIds (modes : Modes) (hw : WellNamed a.variables)
    (h : ¬ SeparateIds a.variables) : CanMisbind a modes := by
  by_cases hr : ∀ v ∈ a.variables, v.id ∉ reservedNames
  · have hlater : ¬ a.variables.Pairwise fun u v => u.id ≠ v.name := fun hp => h ⟨hr, hp⟩
    obtain ⟨before, v, after, hvs, ⟨u, hu, huv⟩, hafter⟩ := exists_last_violation hlater
    exact canMisbind_of_later hw hvs hu (not_not.mp huv) hafter
  · push Not at hr
    obtain ⟨v, hv, hr⟩ := hr
    exact canMisbind_of_reserved hw hv hr

/-- Every scope of a run whose caller gives values of variables has the right
    bindings exactly if no id is a reserved name or the name of a later
    variable, or if some variable has no value and so no scope is there. -/
theorem scope_binds_iff (a : Algorithm) (modes : Modes) (hw : WellNamed a.variables) :
    (∀ iteration context, context.keys.Nodup →
      (∀ k ∈ context.keys, ∃ v ∈ a.variables, v.name = k) →
      ∀ s, a.scope iteration context modes = .ok s →
        Binds a.variables modes iteration context s) ↔
    SeparateIds a.variables ∨ ∃ v ∈ a.variables, ∃ f, v.value modes = .error f := by
  constructor
  · intro hbinds
    by_contra hnot
    push Not at hnot
    obtain ⟨hids, hvalues⟩ := hnot
    have hok : ∀ v ∈ a.variables, ∃ w, v.value modes = .ok w := by
      intro v hv
      cases hvalue : v.value modes with
      | ok w => exact ⟨w, rfl⟩
      | error f => exact absurd hvalue (hvalues v hv f)
    obtain ⟨d, hd⟩ := (Scope.exists_declareAll_iff hw.named).mpr hok
    obtain ⟨context, hnodup, hkeys, hwrong⟩ := canMisbind_of_not_separateIds modes hw hids
    have hs : a.scope .null context modes = .ok _ :=
      (scope_eq_ok_iff hw hkeys).mpr ⟨d, hd, rfl⟩
    exact hwrong _ hs (hbinds .null context hnodup hkeys _ hs)
  · rintro (hids | ⟨v, hv, f, hf⟩) iteration context hnodup hkeys s hs
    · exact binds_of_separateIds hw hids hnodup hkeys hs
    · obtain ⟨d, hd, -⟩ := (scope_eq_ok_iff hw hkeys).mp hs
      obtain ⟨w, hok⟩ := (Scope.exists_declareAll_iff hw.named).mp ⟨d, hd⟩ v hv
      rw [hf] at hok
      cases hok

end Whole

/-- The variables `a` and `b` with the values one and two, and these ids. -/
def pairOf (id id' : String) : Algorithm :=
  Algorithm.ofTexts "" [⟨id, "a", some .number, .num (.int 1), none, false, none, none⟩,
    ⟨id', "b", some .number, .num (.int 2), none, false, none, none⟩] [("F1", "a")]

/-- The id of the second variable is the name of the first one, which is bound
    by then. -/
theorem scope_binds_earlier_name :
    ∃ s, (pairOf "c" "a").scope (.num (.int 0)) [("b", .num (.int 5))] [] = .ok s ∧
      Binds (pairOf "c" "a").variables [] (.num (.int 0)) [("b", .num (.int 5))] s := by
  have hw : WellNamed (pairOf "c" "a").variables :=
    ⟨by decide, by decide, by decide, by decide, by decide⟩
  have hids : SeparateIds (pairOf "c" "a").variables := ⟨by decide, by decide⟩
  refine ⟨_, rfl, ?_⟩
  exact (scope_binds_iff (pairOf "c" "a") [] hw).mpr (.inl hids) _ _ (by decide)
    (by simp [pairOf, Algorithm.ofTexts, Entries.keys]) _ rfl

/-- The id of the first variable is the name of the second one, whose value it
    takes. -/
theorem not_scope_binds :
    WellNamed (pairOf "b" "c").variables ∧
    ∃ s, (pairOf "b" "c").scope (.num (.int 0)) [] [] = .ok s ∧
      s.get? "a" = some (.num (.int 2)) ∧
      ¬ Binds (pairOf "b" "c").variables [] (.num (.int 0)) [] s := by
  refine ⟨⟨by decide, by decide, by decide, by decide, by decide⟩, _, rfl, rfl, ?_⟩
  intro hbinds
  obtain ⟨w, hw, hread⟩ := hbinds.1 _ (List.mem_cons_self ..)
  cases hw
  cases hread

end TokenFormula
