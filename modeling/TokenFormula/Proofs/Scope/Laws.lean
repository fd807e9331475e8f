import TokenFormula.Proofs.Scope

/-!
# Scopes as mappings

What a key stands for is found out at each access, and a bound name is preferred to an
alias. So an operation can change what another key stands for. A write does so where
it binds a name that was an alias itself, and a removal where it uncovers the alias
that a bound name was as well. These are the only ways in which a scope is no mapping,
and neither of them comes up as long as every alias that is registered is fresh.

Results:
* `Scope.Proper.frame_iff`, `Scope.Proper.erased_iff`: when a write leaves another key as it
  was, and when a removed key is out of the scope.
* `Operation`, `Scope.run`: histories of a scope.
* `Scope.Flat`, `flat_addAlias_iff`: scopes whose aliases are bound nowhere and stand
  for no alias, and the registrations that keep them.
* `Scope.mapping_laws`: the laws after every history, with the exact exceptions.
-/

namespace TokenFormula

namespace Entries

variable {α : Type}

theorem keys_set (key : String) (value : α) (es : Entries α) :
    (es.set key value).keys = if es.has key then es.keys else es.keys ++ [key] := by
  induction es with
  | nil => rfl
  | cons e rest ih =>
    obtain ⟨k, v⟩ := e
    unfold has keys at ih ⊢
    rw [set, get?_cons]
    by_cases h : k = key
    · simp [h]
    · rw [if_neg h, if_neg h, List.map_cons, ih]
      split <;> rfl

theorem nodup_keys_set {es : Entries α} (h : es.keys.Nodup) (key : String) (value : α) :
    (es.set key value).keys.Nodup := by
  rw [keys_set]
  split
  · exact h
  · rename_i hkey
    rw [List.nodup_append]
    refine ⟨h, List.nodup_cons.mpr ⟨nofun, List.nodup_nil⟩, fun k hk k' hk' he => hkey ?_⟩
    rw [← mem_keys_iff, ← List.mem_singleton.mp hk', ← he]
    exact hk

theorem nodup_keys_ofPairs (pairs : List (String × α)) : (ofPairs pairs).keys.Nodup := by
  have hfold : ∀ es : Entries α, es.keys.Nodup →
      (keys (pairs.foldl (fun es p => es.set p.1 p.2) es)).Nodup := by
    induction pairs with
    | nil => exact fun _ h => h
    | cons p rest ih => exact fun es h => ih _ (nodup_keys_set h p.1 p.2)
  exact hfold [] List.nodup_nil

theorem erase_sublist (key : String) (es : Entries α) : (es.erase key).Sublist es := by
  induction es with
  | nil => exact .slnil
  | cons e rest ih =>
    obtain ⟨k, v⟩ := e
    rw [erase]
    split
    · exact List.sublist_cons_self ..
    · exact ih.cons_cons _

theorem nodup_keys_erase {es : Entries α} (h : es.keys.Nodup) (key : String) :
    (es.erase key).keys.Nodup :=
  h.sublist ((erase_sublist key es).map _)

theorem has_of_has_erase {es : Entries α} {key other : String}
    (h : (es.erase key).has other = true) : es.has other = true := by
  rw [← mem_keys_iff] at h ⊢
  exact ((erase_sublist key es).map Prod.fst).subset h

/-- Only the first entry of a key is removed, so the keys have to be distinct. -/
theorem get?_erase {es : Entries α} (h : es.keys.Nodup) (key other : String) :
    (es.erase key).get? other = if other = key then none else es.get? other := by
  induction es with
  | nil => simp [erase]
  | cons e rest ih =>
    obtain ⟨k, v⟩ := e
    obtain ⟨hk, hrest⟩ := List.nodup_cons.mp h
    rw [erase]
    by_cases hkey : k = key
    · subst hkey
      rw [if_pos rfl]
      by_cases ho : other = k
      · rw [if_pos ho, ho]
        exact get?_of_not_mem hk
      · rw [if_neg ho, get?_cons, if_neg (Ne.symm ho)]
    · rw [if_neg hkey, get?_cons, get?_cons, ih hrest]
      by_cases ho : k = other
      · rw [if_pos ho, if_pos ho, if_neg (ho ▸ hkey)]
      · rw [if_neg ho, if_neg ho]

theorem has_erase {es : Entries α} (h : es.keys.Nodup) (key other : String) :
    (es.erase key).has other = (other != key && es.has other) := by
  unfold has
  rw [get?_erase h]
  by_cases ho : other = key <;> simp [ho]

end Entries

namespace Scope

variable {s s' : Scope} {k j name : String}

/-! ## Removing and reading -/

/-- A removal succeeds where the key can be read. -/
theorem erase_eq_ok_iff :
    s.erase k = .ok s' ↔
      s.has k = true ∧ s' = { s with values := s.values.erase (s.resolve k) } := by
  show (if s.has k then _ else _) = _ ↔ _
  cases s.has k with
  | false => simp
  | true => simp [eq_comm]

theorem read_eq_ok_iff {v : Value} : s.read k = .ok v ↔ s.get? k = some v := by
  unfold read
  cases s.get? k <;> simp

theorem pop_eq_ok_iff {v : Value} :
    s.pop k = .ok (v, s') ↔ s.get? k = some v ∧ s.erase k = .ok s' := by
  unfold pop
  rw [← read_eq_ok_iff]
  cases s.read k with
  | error f => simp [Bind.bind, Except.bind]
  | ok u =>
    cases s.erase k with
    | error f => simp [Bind.bind, Except.bind]
    | ok t => simp [Bind.bind, Except.bind, Pure.pure, Except.pure]

/-! ## Where a key stands for something else than before -/

/-- The key stands for a name that is an alias itself; neither is bound. -/
def Chained (s : Scope) (k j : String) : Prop :=
  s.values.has k = false ∧ s.aliases.get? k = some j ∧
    s.values.has j = false ∧ (s.aliases.get? j).isSome = true

/-- The key is bound, and it is an alias of another bound name. -/
def Shadowed (s : Scope) (k : String) : Prop :=
  s.values.has k = true ∧ ∃ name, s.aliases.get? k = some name ∧ s.values.has name = true

/-- The keys are distinct, and no alias stands for itself. -/
structure Proper (s : Scope) : Prop where
  nodup : s.values.keys.Nodup
  alias_ne : ∀ k, s.aliases.get? k ≠ some k

/-- A key is bound, or it is no alias, or it stands for another name. -/
theorem resolve_cases (s : Scope) (k : String) :
    s.values.has k = true ∧ s.resolve k = k ∨
      s.values.has k = false ∧ s.aliases.get? k = none ∧ s.resolve k = k ∨
      ∃ name, s.values.has k = false ∧ s.aliases.get? k = some name ∧ s.resolve k = name := by
  cases hk : s.values.has k with
  | true => exact .inl ⟨rfl, resolve_of_has hk⟩
  | false =>
    right
    cases ha : s.aliases.get? k with
    | none => exact .inl ⟨rfl, rfl, direct_of_no_alias ha⟩
    | some name => exact .inr ⟨name, rfl, rfl, resolve_of_alias hk ha⟩

/-- A write at one key binds another key that stands for something else just if the two
    are chained. -/
theorem eq_resolve_iff (hne : s.resolve j ≠ s.resolve k) : j = s.resolve k ↔ s.Chained k j := by
  constructor
  · intro h
    rw [← h] at hne
    obtain ⟨-, hj⟩ | ⟨-, -, hj⟩ | ⟨_, hj, haj, -⟩ := s.resolve_cases j
    · exact absurd hj hne
    · exact absurd hj hne
    obtain ⟨hk, he⟩ | ⟨hk, hak, he⟩ | ⟨name, hk, hak, he⟩ := s.resolve_cases k
    · rw [h.trans he, hk] at hj
      cases hj
    · rw [h.trans he, hak] at haj
      cases haj
    · exact ⟨hk, hak.trans (congrArg some (h.trans he).symm), hj, by rw [haj]; rfl⟩
  · rintro ⟨hk, hak, -, -⟩
    exact (resolve_of_alias hk hak).symm

/-- Chained keys stand for different names. -/
theorem Proper.resolve_ne_of_chained (h : s.Proper) (hc : s.Chained k j) :
    s.resolve j ≠ s.resolve k := by
  obtain ⟨hk, hak, hj, haj⟩ := hc
  obtain ⟨name, haj⟩ := Option.isSome_iff_exists.mp haj
  rw [resolve_of_alias hj haj, resolve_of_alias hk hak]
  rintro rfl
  exact h.alias_ne _ haj

theorem aliases_erase (he : s.erase k = .ok s') : s'.aliases = s.aliases := by
  rw [(erase_eq_ok_iff.mp he).2]

/-- Only the name that the key stands for is no longer bound. -/
theorem Proper.has_values_erase (h : s.Proper) (he : s.erase k = .ok s') (name : String) :
    s'.values.has name = (name != s.resolve k && s.values.has name) := by
  rw [(erase_eq_ok_iff.mp he).2]
  exact Entries.has_erase h.nodup ..

/-- A removed key can be read just if it was bound and an alias of a bound name. -/
theorem Proper.has_of_erase (h : s.Proper) (he : s.erase k = .ok s') :
    s'.has k = true ↔ s.Shadowed k := by
  have hhas := (erase_eq_ok_iff.mp he).1
  have hvalues := h.has_values_erase he
  have haliases := aliases_erase he
  show s'.values.has (s'.resolve k) = true ↔ _
  obtain ⟨hk, hr⟩ | ⟨hk, -, hr⟩ | ⟨name, hk, ha, hr⟩ := s.resolve_cases k
  · -- The key itself is removed, so that it stands for its alias, if it has one.
    have hk' : s'.values.has k = false := by rw [hvalues, hr, bne_self_eq_false, Bool.false_and]
    cases ha : s.aliases.get? k with
    | none =>
      rw [direct_of_no_alias (haliases ▸ ha), hk']
      refine iff_of_false Bool.false_ne_true ?_
      rintro ⟨-, name, hn, -⟩
      cases ha.symm.trans hn
    | some name =>
      have hne : name ≠ k := fun hn => h.alias_ne k (hn ▸ ha)
      rw [resolve_of_alias hk' (haliases ▸ ha), hvalues, hr, bne_iff_ne.mpr hne, Bool.true_and]
      constructor
      · exact fun hname => ⟨hk, name, ha, hname⟩
      · rintro ⟨-, name', ha', hname⟩
        obtain rfl := Option.some.inj (ha.symm.trans ha')
        exact hname
  · -- Nothing is removed.
    rw [has, Scope.get?, hr] at hhas
    exact absurd hhas (Bool.eq_false_iff.mp hk)
  · -- The name is removed, and the key still stands for it.
    have hk' : s'.values.has k = false := by rw [hvalues, hk, Bool.and_false]
    rw [resolve_of_alias hk' (haliases ▸ ha), hvalues, hr, bne_self_eq_false, Bool.false_and]
    exact iff_of_false Bool.false_ne_true fun hs =>
      absurd (hk.symm.trans hs.1) Bool.false_ne_true

/-- A shadowed key can be removed. -/
theorem Shadowed.exists_erase (h : s.Shadowed k) :
    ∃ v s', s.get? k = some v ∧ s.erase k = .ok s' := by
  obtain ⟨v, hv⟩ := Option.isSome_iff_exists.mp h.1
  have hread : s.get? k = some v := (direct_of_has h.1).get?.trans hv
  have hhas : s.has k = true := by rw [has, hread]; rfl
  exact ⟨v, _, hread, erase_eq_ok_iff.mpr ⟨hhas, rfl⟩⟩

/-! ## The laws of one scope -/

/-- A write leaves what stands for another name just if the two keys are not chained. -/
theorem Proper.frame_iff (h : s.Proper) :
    (s.resolve j ≠ s.resolve k → ∀ v, (s.set k v).get? j = s.get? j) ↔ ¬ s.Chained k j := by
  constructor
  · intro hframe hc
    have hne := h.resolve_ne_of_chained hc
    -- Two different values cannot both be what was read before.
    have hread : ∀ v, s.get? j = some v := by
      intro v
      rw [← hframe hne v, get?_set, if_pos (.inl ((eq_resolve_iff hne).mpr hc))]
    cases (hread .null).symm.trans (hread (.bool true))
  · intro hc hne v
    rw [← eq_resolve_iff hne] at hc
    rw [get?_set, if_neg (not_or.mpr ⟨hc, hne⟩)]

/-- A removal leaves the key out of the scope just if it was not shadowed. -/
theorem Proper.erased_iff (h : s.Proper) :
    (∀ s', s.erase k = .ok s' → s'.has k = false) ↔ ¬ s.Shadowed k := by
  constructor
  · intro herased hk
    obtain ⟨v, s', -, he⟩ := hk.exists_erase
    exact Bool.eq_false_iff.mp (herased s' he) ((h.has_of_erase he).mpr hk)
  · intro hk s' he
    exact Bool.eq_false_iff.mpr fun hhas => hk ((h.has_of_erase he).mp hhas)

theorem Proper.popped_iff (h : s.Proper) :
    (∀ v s', s.pop k = .ok (v, s') → s'.has k = false) ↔ ¬ s.Shadowed k := by
  constructor
  · intro hpopped hk
    obtain ⟨v, s', hv, he⟩ := hk.exists_erase
    have hhas := hpopped v s' (pop_eq_ok_iff.mpr ⟨hv, he⟩)
    exact Bool.eq_false_iff.mp hhas ((h.has_of_erase he).mpr hk)
  · intro hk v s' he
    exact h.erased_iff.mpr hk s' (pop_eq_ok_iff.mp he).2

theorem has_iff_read : s.has k = true ↔ ∃ v, s.read k = .ok v := by
  simp only [read_eq_ok_iff, has, Option.isSome_iff_exists]

/-! ## Histories -/

/-- The operations that change a scope. Removing a key that cannot be read fails. -/
inductive Operation where
  | addAlias (key name : String)
  | set (key : String) (value : Value)
  | erase (key : String)
  | pop (key : String)
  | setDefault (key : String) (value : Value)
  | update (pairs : List (String × Value))
  | clear
  | copy

/-- The scope after an operation: as it was where the operation fails, and as it was
    where it is a copy that is used from then on. -/
def after (s : Scope) : Operation → Scope
  | .addAlias key name => s.addAlias key name
  | .set key value => s.set key value
  | .erase key =>
    match s.erase key with
    | .ok s' => s'
    | .error _ => s
  | .pop key =>
    match s.pop key with
    | .ok (_, s') => s'
    | .error _ => s
  | .setDefault key value => (s.setDefault key value).2
  | .update pairs => s.setAll pairs
  | .clear => s.clear
  | .copy => ⟨s.values, s.aliases, s.unnamed⟩

/-- The scope after several operations. -/
def run (s : Scope) (ops : List Operation) : Scope :=
  ops.foldl after s

/-- A property of scopes holds after every operation if writes, removals and the
    registration keep it. -/
theorem after_induct {p : Scope → Prop} (hset : ∀ s k v, p s → p (s.set k v))
    (herase : ∀ s k s', p s → s.erase k = .ok s' → p s') (hclear : ∀ s, p s → p s.clear)
    {op : Operation} (halias : ∀ key name, op = .addAlias key name → p (s.addAlias key name))
    (h : p s) : p (s.after op) := by
  cases op with
  | addAlias key name => exact halias key name rfl
  | set key value => exact hset s key value h
  | erase key =>
    rw [after]
    split
    · rename_i he
      exact herase s key _ h he
    · exact h
  | pop key =>
    rw [after]
    split
    · rename_i he
      exact herase s key _ h (pop_eq_ok_iff.mp he).2
    · exact h
  | setDefault key value =>
    rw [after, setDefault]
    split
    · exact h
    · exact hset s key value h
  | update pairs =>
    have hall : ∀ s, p s → p (s.setAll pairs) := by
      induction pairs with
      | nil => exact fun _ h => h
      | cons q rest ih => exact fun s h => ih (fun _ _ => nofun) _ (hset s q.1 q.2 h)
    exact hall s h
  | clear => exact hclear s h
  | copy => exact h

theorem proper_ofPairs (pairs : List (String × Value)) : (ofPairs pairs).Proper :=
  ⟨Entries.nodup_keys_ofPairs pairs, fun _ => nofun⟩

theorem Proper.after (h : s.Proper) (op : Operation) : (s.after op).Proper := by
  refine after_induct ?_ ?_ ?_ ?_ h
  · exact fun s k v h => ⟨Entries.nodup_keys_set h.nodup .., h.alias_ne⟩
  · intro s k s' h he
    obtain ⟨-, rfl⟩ := erase_eq_ok_iff.mp he
    exact ⟨Entries.nodup_keys_erase h.nodup _, h.alias_ne⟩
  · exact fun s h => ⟨List.nodup_nil, h.alias_ne⟩
  · rintro key name -
    refine ⟨by rw [values_addAlias]; exact h.nodup, fun k => ?_⟩
    unfold addAlias
    split
    · exact h.alias_ne k
    · rename_i hkey
      show (s.aliases.set key name).get? k ≠ _
      rw [Entries.get?_set]
      split
      · rename_i hk
        intro hn
        obtain rfl := Option.some.inj hn
        simp [hk] at hkey
      · exact h.alias_ne k

theorem Proper.run (h : s.Proper) (ops : List Operation) : (s.run ops).Proper := by
  induction ops generalizing s with
  | nil => exact h
  | cons op ops ih => exact ih (h.after op)

/-! ## Flat scopes -/

/-- The aliases are not bound, and what they stand for is no alias. -/
structure Flat (s : Scope) : Prop where
  unbound : ∀ k name, s.aliases.get? k = some name → s.values.has k = false
  direct : ∀ k name, s.aliases.get? k = some name → s.aliases.get? name = none

/-- The registration does nothing, or it is of an unbound key that no alias stands for,
    as an alias of a name that is none. -/
def Fresh (s : Scope) (key name : String) : Prop :=
  (key.isEmpty || key == name) = true ∨
    s.values.has key = false ∧ (∀ k, s.aliases.get? k ≠ some key) ∧ s.aliases.get? name = none

/-- Every alias is fresh when it is registered. -/
def FreshAliases (s : Scope) : List Operation → Prop
  | [] => True
  | op :: rest =>
    (∀ key name, op = .addAlias key name → s.Fresh key name) ∧ (s.after op).FreshAliases rest

theorem flat_ofPairs (pairs : List (String × Value)) : (ofPairs pairs).Flat :=
  ⟨fun _ _ => nofun, fun _ _ => nofun⟩

/-- A flat scope stays flat just if the alias is fresh. -/
theorem flat_addAlias_iff (h : s.Flat) : (s.addAlias k name).Flat ↔ s.Fresh k name := by
  unfold Fresh
  cases hkey : (k.isEmpty || k == name) with
  | true =>
    rw [addAlias, if_pos hkey]
    exact iff_of_true h (.inl rfl)
  | false =>
    obtain ⟨hempty, hne⟩ := Bool.or_eq_false_iff.mp hkey
    have hself := alias_addAlias_self (s := s) hempty (beq_eq_false_iff_ne.mp hne)
    rw [or_iff_right Bool.false_ne_true]
    constructor
    · intro h'
      refine ⟨values_addAlias s k name ▸ h'.unbound k name hself, fun j hj => ?_, ?_⟩
      · by_cases hjk : j = k
        · subst hjk
          cases hj.symm.trans (h.direct j j hj)
        · rw [← alias_addAlias_of_ne hjk] at hj
          cases hself.symm.trans (h'.direct j k hj)
      · have hname := h'.direct k name hself
        rwa [alias_addAlias_of_ne (Ne.symm (beq_eq_false_iff_ne.mp hne))] at hname
    · rintro ⟨hk, htarget, hname⟩
      refine ⟨fun j other hj => ?_, fun j other hj => ?_⟩ <;> by_cases hjk : j = k
      · rw [values_addAlias, hjk]
        exact hk
      · rw [alias_addAlias_of_ne hjk] at hj
        rw [values_addAlias]
        exact h.unbound j other hj
      · subst hjk
        obtain rfl := Option.some.inj (hself.symm.trans hj)
        rwa [alias_addAlias_of_ne (Ne.symm (beq_eq_false_iff_ne.mp hne))]
      · rw [alias_addAlias_of_ne hjk] at hj
        have hother : other ≠ k := fun he => htarget j (he ▸ hj)
        rw [alias_addAlias_of_ne hother]
        exact h.direct j other hj

/-- A write binds the name that a key stands for, which is no alias. -/
theorem Flat.set (h : s.Flat) (k : String) (v : Value) : (s.set k v).Flat := by
  refine ⟨fun j name hj => ?_, h.direct⟩
  have hj : s.aliases.get? j = some name := hj
  rw [has_set, h.unbound j name hj, Bool.or_false, beq_eq_false_iff_ne]
  rintro rfl
  obtain ⟨hk, hr⟩ | ⟨-, ha, hr⟩ | ⟨name', -, ha, hr⟩ := s.resolve_cases k
  · cases hk.symm.trans (h.unbound k name (hr ▸ hj))
  · cases ha.symm.trans (hr ▸ hj)
  · cases (h.direct k name' ha).symm.trans (hr ▸ hj)

theorem Flat.after {op : Operation} (h : s.Flat)
    (hfresh : ∀ key name, op = .addAlias key name → s.Fresh key name) : (s.after op).Flat := by
  refine after_induct ?_ ?_ ?_ ?_ h
  · exact fun s k v h => h.set k v
  · intro s k s' h he
    obtain ⟨-, rfl⟩ := erase_eq_ok_iff.mp he
    refine ⟨fun j name hj => Bool.eq_false_iff.mpr fun hhas => ?_, h.direct⟩
    exact Bool.eq_false_iff.mp (h.unbound j name hj) (Entries.has_of_has_erase hhas)
  · exact fun s h => ⟨fun _ _ _ => rfl, h.direct⟩
  · exact fun key name hop => (flat_addAlias_iff h).mpr (hfresh key name hop)

theorem Flat.run {ops : List Operation} (h : s.Flat) (hfresh : s.FreshAliases ops) :
    (s.run ops).Flat := by
  induction ops generalizing s with
  | nil => exact h
  | cons op ops ih => exact ih (h.after hfresh.1) hfresh.2

theorem Flat.not_chained (h : s.Flat) (k j : String) : ¬ s.Chained k j := by
  rintro ⟨-, ha, -, hj⟩
  rw [h.direct k j ha] at hj
  cases hj

theorem Flat.not_shadowed (h : s.Flat) (k : String) : ¬ s.Shadowed k := by
  rintro ⟨hk, name, ha, -⟩
  cases hk.symm.trans (h.unbound k name ha)

/-! ## The laws after every history -/

/-- After every history a key reads what is written at it, and it is in the scope just if
    it can be read. That another key, which stands for another name, reads what it read
    is true just if the two are not chained, and that a removed key is out of the scope
    just if it was not shadowed. Where every alias was fresh, no keys are chained and
    none is shadowed. -/
theorem mapping_laws {pairs : List (String × Value)} {ops : List Operation}
    (hs : (ofPairs pairs).run ops = s) (k j : String) :
    (∀ v, (s.set k v).get? k = some v) ∧
      ((s.resolve j ≠ s.resolve k → ∀ v, (s.set k v).get? j = s.get? j) ↔ ¬ s.Chained k j) ∧
      ((∀ s', s.erase k = .ok s' → s'.has k = false) ↔ ¬ s.Shadowed k) ∧
      ((∀ v s', s.pop k = .ok (v, s') → s'.has k = false) ↔ ¬ s.Shadowed k) ∧
      (s.has k = true ↔ ∃ v, s.read k = .ok v) ∧
      ((ofPairs pairs).FreshAliases ops → ¬ s.Chained k j ∧ ¬ s.Shadowed k) := by
  subst hs
  have hproper := (proper_ofPairs pairs).run ops
  refine ⟨get?_set_key _ k, hproper.frame_iff, hproper.erased_iff, hproper.popped_iff,
    has_iff_read, fun hfresh => ?_⟩
  have hflat := (flat_ofPairs pairs).run hfresh
  exact ⟨hflat.not_chained k j, hflat.not_shadowed k⟩

/-- An alias that is registered afresh, written and removed. -/
theorem mapping_laws_fresh : ∃ s s',
    (ofPairs [("base", .int 4)]).run [.addAlias "v_base" "base", .set "v_base" (.int 10)] = s ∧
      (ofPairs [("base", .int 4)]).FreshAliases
        [.addAlias "v_base" "base", .set "v_base" (.int 10)] ∧
      s.get? "base" = some (.int 10) ∧ s.erase "v_base" = .ok s' ∧ s'.has "v_base" = false := by
  have hfresh : (ofPairs [("base", .int 4)]).FreshAliases
      [.addAlias "v_base" "base", .set "v_base" (.int 10)] := by
    refine ⟨?_, by nofun, trivial⟩
    rintro key name ⟨⟩
    exact .inr ⟨by decide, fun _ => nofun, rfl⟩
  obtain ⟨-, -, herase, -, -, hexceptions⟩ := mapping_laws
    (s := (ofPairs [("base", .int 4)]).run [.addAlias "v_base" "base", .set "v_base" (.int 10)])
    rfl "v_base" "base"
  exact ⟨_, _, rfl, hfresh, rfl, rfl, herase.mpr (hexceptions hfresh).2 _ rfl⟩

/-- A removed key is still in the scope where it was an alias as well, and a write binds a
    name that stood for another one. -/
theorem not_mapping_laws :
    (∃ s s', (ofPairs [("k", .int 1), ("d", .int 2)]).run [.addAlias "k" "d"] = s ∧
      s.erase "k" = .ok s' ∧ s'.has "k" = true) ∧
    ∃ s, (ofPairs [("d", .int 1)]).run [.addAlias "c" "d", .addAlias "k" "c"] = s ∧
      s.resolve "c" ≠ s.resolve "k" ∧ s.get? "c" = some (.int 1) ∧
      (s.set "k" (.int 5)).get? "c" = some (.int 5) :=
  ⟨⟨_, _, rfl, rfl, rfl⟩, _, rfl, by decide, rfl, rfl⟩

end Scope
end TokenFormula
