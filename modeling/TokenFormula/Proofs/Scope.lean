import TokenFormula.Scope

/-!
# Reading and writing through aliases

A key is direct if it is looked up under itself: it is bound, or it is no alias.
Writes keep direct keys direct, and at direct keys a scope reads and writes like
a list of entries. An alias that is not bound redirects what is written at it.

Results:
* `get?_set_of_direct`, `get?_setAll_of_direct`: reading direct keys after writes
  at direct keys.
* `get?_set`: what any key reads after a write at any key.
* `get?_set_or`, `get?_setAll_or`: what any key can read after writes.
* `get?_addAlias`: what an alias leaves.
* `Unreached`: names that a set of keys cannot write; `get?_setAll_of_alias`:
  what a write at an unbound alias does to its name.
* `mem_writeUnnamed`, `mem_of_mem_writeUnnamed`: what a write at a value that is
  no text leaves, and what it adds.
-/

namespace TokenFormula

namespace Entries

variable {α : Type}

theorem get?_set (key other : String) (value : α) (es : Entries α) :
    (es.set key value).get? other = if other = key then some value else es.get? other := by
  by_cases h : other = key
  · simp [h]
  · simp [h, get?_set_of_ne h]

theorem has_set (key other : String) (value : α) (es : Entries α) :
    (es.set key value).has other = (other == key || es.has other) := by
  unfold has
  rw [get?_set]
  by_cases h : other = key <;> simp [h]

theorem mem_keys_iff (key : String) (es : Entries α) : key ∈ es.keys ↔ es.has key = true := by
  induction es with
  | nil => simp [keys, has]
  | cons e rest ih =>
    obtain ⟨k, v⟩ := e
    unfold has keys at ih ⊢
    rw [get?_cons]
    by_cases h : k = key
    · simp [h]
    · simp [h, Ne.symm h, ih]

theorem get?_of_not_mem {key : String} {es : Entries α} (h : key ∉ es.keys) :
    es.get? key = none := by
  rw [mem_keys_iff] at h
  simpa [has] using h

theorem mem_of_get? {key : String} {v : α} {es : Entries α}
    (h : es.get? key = some v) : (key, v) ∈ es := by
  induction es with
  | nil => cases h
  | cons p rest ih =>
    obtain ⟨k, w⟩ := p
    rw [get?_cons] at h
    split at h
    · rename_i hk
      rw [hk, Option.some.inj h]
      exact List.mem_cons_self
    · exact List.mem_cons_of_mem _ (ih h)

/-- A write leaves the entries as they are, apart from its own. -/
theorem mem_set {key : String} {v : α} {es : Entries α} {p : String × α}
    (h : p ∈ es.set key v) : p ∈ es ∨ p = (key, v) := by
  induction es with
  | nil => exact .inr (List.mem_singleton.mp h)
  | cons q rest ih =>
    obtain ⟨k, w⟩ := q
    unfold set at h
    split at h
    · rename_i hk
      obtain rfl | h := List.mem_cons.mp h
      · exact .inr (by rw [hk])
      · exact .inl (List.mem_cons_of_mem _ h)
    · obtain rfl | h := List.mem_cons.mp h
      · exact .inl List.mem_cons_self
      · exact (ih h).imp_left (List.mem_cons_of_mem _)

theorem get?_append (key : String) (es fs : Entries α) :
    get? key (es ++ fs) = (es.get? key).or (fs.get? key) := by
  induction es with
  | nil => rfl
  | cons e rest ih =>
    obtain ⟨k, v⟩ := e
    rw [List.cons_append, get?_cons, get?_cons, ih]
    split <;> rfl

theorem has_foldl_set (key : String) (pairs : List (String × α)) (es : Entries α) :
    (pairs.foldl (fun es p => es.set p.1 p.2) es).has key = true ↔
      es.has key = true ∨ key ∈ pairs.map Prod.fst := by
  induction pairs generalizing es with
  | nil => simp
  | cons p rest ih =>
    rw [List.foldl_cons, ih, has_set, List.map_cons, List.mem_cons]
    simp only [Bool.or_eq_true, beq_iff_eq, or_assoc, or_left_comm]

theorem has_ofPairs (key : String) (pairs : List (String × α)) :
    (ofPairs pairs).has key = true ↔ key ∈ pairs.map Prod.fst :=
  (has_foldl_set key pairs []).trans (or_iff_right Bool.false_ne_true)

/-- A key has the value that is written last. -/
theorem get?_foldl_set (key : String) (pairs : List (String × α)) (es : Entries α) :
    (pairs.foldl (fun es p => es.set p.1 p.2) es).get? key =
      ((pairs.reverse.find? (·.1 == key)).map Prod.snd).or (es.get? key) := by
  induction pairs generalizing es with
  | nil => rfl
  | cons p rest ih =>
    rw [List.foldl_cons, ih, get?_set, List.reverse_cons, List.find?_append]
    cases rest.reverse.find? (·.1 == key) with
    | some q => rfl
    | none =>
      by_cases hkey : key = p.1
      · simp [hkey]
      · simp [hkey, Ne.symm hkey]

theorem get?_ofPairs (key : String) (pairs : List (String × α)) :
    (ofPairs pairs).get? key = (pairs.reverse.find? (·.1 == key)).map Prod.snd := by
  rw [ofPairs, get?_foldl_set, get?_nil, Option.or_none]

theorem mem_of_get?_ofPairs {key : String} {v : α} {pairs : List (String × α)}
    (h : (ofPairs pairs).get? key = some v) : (key, v) ∈ pairs := by
  rw [get?_ofPairs] at h
  obtain ⟨p, hp, rfl⟩ := Option.map_eq_some_iff.mp h
  have hkey : p.1 = key := by simpa using List.find?_some hp
  rw [← hkey]
  exact List.mem_reverse.mp (List.mem_of_find?_eq_some hp)

end Entries

namespace Scope

variable {s : Scope} {j k name : String} {v : Value} {pairs : List (String × Value)}

/-- The key is looked up under itself. -/
def Direct (s : Scope) (k : String) : Prop :=
  s.resolve k = k

theorem direct_of_has (h : s.values.has k = true) : s.Direct k :=
  resolve_of_has h

theorem direct_of_no_alias (h : s.aliases.get? k = none) : s.Direct k := by
  unfold Direct resolve
  simp [h]

theorem Direct.get? (h : s.Direct k) : s.get? k = s.values.get? k := by
  rw [Scope.get?, h]

/-- An alias that is not bound is looked up under the name it stands for. -/
theorem resolve_of_alias (hk : s.values.has k = false) (ha : s.aliases.get? k = some name) :
    s.resolve k = name := by
  simp [resolve, hk, ha]

/-! ## Writes -/

theorem has_set (s : Scope) (j k : String) (v : Value) :
    (s.set j v).values.has k = (k == s.resolve j || s.values.has k) :=
  Entries.has_set ..

theorem aliases_set (s : Scope) (j : String) (v : Value) : (s.set j v).aliases = s.aliases := rfl

theorem resolve_set (s : Scope) (j k : String) (v : Value) :
    (s.set j v).resolve k = if k = s.resolve j then k else s.resolve k := by
  rw [resolve, has_set, aliases_set]
  by_cases h : k = s.resolve j
  · simp [← h]
  · rw [if_neg h, beq_eq_false_iff_ne.mpr h, Bool.false_or, resolve]

/-- A key reads what was written if it is the name that is written or stands for it. -/
theorem get?_set (s : Scope) (k j : String) (v : Value) :
    (s.set k v).get? j =
      if j = s.resolve k ∨ s.resolve j = s.resolve k then some v else s.get? j := by
  show (s.values.set (s.resolve k) v).get? ((s.set k v).resolve j) = _
  rw [resolve_set, Entries.get?_set]
  by_cases h : j = s.resolve k
  · rw [if_pos h, if_pos h, if_pos (.inl h)]
  · rw [if_neg h]
    by_cases h' : s.resolve j = s.resolve k
    · rw [if_pos h', if_pos (.inr h')]
    · rw [if_neg h', if_neg (not_or.mpr ⟨h, h'⟩)]
      rfl

theorem Direct.set (h : s.Direct k) (j : String) (v : Value) : (s.set j v).Direct k := by
  unfold Direct
  rw [resolve_set, h, ite_self]

theorem get?_set_of_direct (hj : s.Direct j) (hk : s.Direct k) (v : Value) :
    (s.set j v).get? k = if k = j then some v else s.get? k := by
  rw [get?_set, hj, hk]
  simp only [or_self]

/-- After a write any key reads what was written or what it read before. -/
theorem get?_set_or (s : Scope) (j k : String) (v : Value) :
    (s.set j v).get? k = s.get? k ∨ (s.set j v).get? k = some v := by
  rw [get?_set]
  split
  · exact .inr rfl
  · exact .inl rfl

/-- A write through an alias that is not bound is read at the name. -/
theorem get?_set_resolve (s : Scope) (j : String) (v : Value) :
    (s.set j v).get? (s.resolve j) = some v := by
  rw [get?_set, if_pos (.inl rfl)]

/-- A key reads what is written at it. -/
theorem get?_set_key (s : Scope) (k : String) (v : Value) : (s.set k v).get? k = some v := by
  rw [get?_set, if_pos (.inr rfl)]

/-! ## Several writes -/

theorem setAll_cons (s : Scope) (p : String × Value) (rest : List (String × Value)) :
    s.setAll (p :: rest) = (s.set p.1 p.2).setAll rest := rfl

theorem aliases_setAll (s : Scope) (pairs : List (String × Value)) :
    (s.setAll pairs).aliases = s.aliases := by
  induction pairs generalizing s with
  | nil => rfl
  | cons p rest ih => exact (ih (s.set p.1 p.2)).trans (aliases_set s p.1 p.2)

theorem unnamed_setAll (s : Scope) (pairs : List (String × Value)) :
    (s.setAll pairs).unnamed = s.unnamed := by
  induction pairs generalizing s with
  | nil => rfl
  | cons p rest ih => exact ih (s.set p.1 p.2)

theorem Direct.setAll (h : s.Direct k) (pairs : List (String × Value)) :
    (s.setAll pairs).Direct k := by
  induction pairs generalizing s with
  | nil => exact h
  | cons p rest ih => exact ih (h.set p.1 p.2)

theorem get?_setAll_of_direct (hpairs : ∀ p ∈ pairs, s.Direct p.1)
    (hnodup : (Entries.keys pairs).Nodup) (hk : s.Direct k) :
    (s.setAll pairs).get? k = (Entries.get? k pairs).or (s.get? k) := by
  induction pairs generalizing s with
  | nil => rfl
  | cons p rest ih =>
    obtain ⟨j, v⟩ := p
    rw [List.forall_mem_cons] at hpairs
    obtain ⟨hj, hrest⟩ := List.nodup_cons.mp hnodup
    rw [setAll_cons, ih (fun p hp => (hpairs.2 p hp).set j v) hrest (hk.set j v),
      get?_set_of_direct hpairs.1 hk, Entries.get?_cons]
    by_cases h : k = j
    · have hnone : Entries.get? k rest = none := Entries.get?_of_not_mem (h ▸ hj)
      rw [hnone, if_pos h, if_pos h.symm]
      rfl
    · simp [h, Ne.symm h]

/-- After several writes any key reads what it read before or what one of them
    wrote. -/
theorem get?_setAll_or (s : Scope) (pairs : List (String × Value)) (k : String) :
    (s.setAll pairs).get? k = s.get? k ∨ ∃ p ∈ pairs, (s.setAll pairs).get? k = some p.2 := by
  induction pairs generalizing s with
  | nil => exact .inl rfl
  | cons p rest ih =>
    rw [setAll_cons]
    rcases ih (s.set p.1 p.2) with h | ⟨q, hq, h⟩
    · rcases get?_set_or s p.1 k p.2 with h' | h'
      · exact .inl (h.trans h')
      · exact .inr ⟨p, List.mem_cons_self .., h.trans h'⟩
    · exact .inr ⟨q, List.mem_cons_of_mem _ hq, h⟩

/-! ## Aliases -/

theorem values_addAlias (s : Scope) (k name : String) : (s.addAlias k name).values = s.values := by
  unfold addAlias
  split <;> rfl

theorem alias_addAlias_self (hk : k.isEmpty = false) (hne : k ≠ name) :
    (s.addAlias k name).aliases.get? k = some name := by
  unfold addAlias
  simp [hk, hne]

theorem alias_addAlias_of_ne (h : j ≠ k) :
    (s.addAlias k name).aliases.get? j = s.aliases.get? j := by
  unfold addAlias
  split
  · rfl
  · exact Entries.get?_set_of_ne h ..

/-- A new alias stands for its name, or nothing has changed. -/
theorem alias_addAlias_or (s : Scope) (k name : String) :
    (s.addAlias k name).aliases.get? k = some name ∨
      (s.addAlias k name).aliases.get? k = s.aliases.get? k := by
  unfold addAlias
  split
  · exact .inr rfl
  · exact .inl (Entries.get?_set_self ..)

theorem resolve_addAlias (h : j ≠ k ∨ s.values.has j = true) :
    (s.addAlias k name).resolve j = s.resolve j := by
  unfold resolve
  rw [values_addAlias]
  rcases h with h | h
  · rw [alias_addAlias_of_ne h]
  · simp [h]

theorem get?_addAlias (h : j ≠ k ∨ s.values.has j = true) :
    (s.addAlias k name).get? j = s.get? j := by
  rw [get?, get?, values_addAlias, resolve_addAlias h]

theorem Direct.addAlias (hj : s.Direct j) (h : j ≠ k ∨ s.values.has j = true) :
    (s.addAlias k name).Direct j :=
  (resolve_addAlias h).trans hj

/-! ## Names that are not reached -/

/-- The name is not bound, and no alias among the keys stands for it. -/
def Unreached (keys : String → Prop) (name : String) (s : Scope) : Prop :=
  s.values.has name = false ∧ ∀ k, keys k → s.aliases.get? k ≠ some name

variable {keys : String → Prop}

theorem Unreached.resolve_ne (h : Unreached keys name s) (hj : keys j) (hne : j ≠ name) :
    s.resolve j ≠ name := by
  unfold resolve
  split
  · exact hne
  · intro hr
    cases ha : s.aliases.get? j with
    | none =>
      rw [ha] at hr
      exact hne hr
    | some t =>
      rw [ha] at hr
      exact h.2 j hj (ha.trans (congrArg some hr))

/-- Writes at these keys leave the name unbound. -/
theorem Unreached.set (h : Unreached keys name s) (hj : keys j) (hne : j ≠ name) (v : Value) :
    Unreached keys name (s.set j v) := by
  refine ⟨?_, h.2⟩
  rw [has_set, h.1, beq_eq_false_iff_ne.mpr (h.resolve_ne hj hne).symm]
  rfl

/-- So do aliases for other names. -/
theorem Unreached.addAlias {other : String} (h : Unreached keys name s) (hne : other ≠ name) :
    Unreached keys name (s.addAlias j other) := by
  refine ⟨by rw [values_addAlias]; exact h.1, fun k hk => ?_⟩
  by_cases hj : k = j
  · subst hj
    rcases alias_addAlias_or s k other with ha | ha
    · rw [ha]
      exact fun he => hne (Option.some.inj he)
    · rw [ha]
      exact h.2 k hk
  · rw [alias_addAlias_of_ne hj]
    exact h.2 k hk

/-- Where one of several writes is at an unbound alias, the name that the alias
    stands for reads what one of them wrote. -/
theorem get?_setAll_of_alias (ha : s.aliases.get? k = some name)
    (hu : Unreached (· ∈ Entries.keys pairs) k s) (hk : k ∈ Entries.keys pairs) :
    ∃ p ∈ pairs, (s.setAll pairs).get? name = some p.2 := by
  induction pairs generalizing s with
  | nil => cases hk
  | cons p rest ih =>
    rw [setAll_cons]
    by_cases hp : p.1 = k
    · have hread : (s.set p.1 p.2).get? name = some p.2 := by
        have := get?_set_resolve s p.1 p.2
        rwa [hp, resolve_of_alias hu.1 ha, ← hp] at this
      rcases get?_setAll_or (s.set p.1 p.2) rest name with h | ⟨q, hq, h⟩
      · exact ⟨p, List.mem_cons_self .., h.trans hread⟩
      · exact ⟨q, List.mem_cons_of_mem _ hq, h⟩
    · have hset := hu.set (List.mem_cons_self ..) hp p.2
      have hrest : k ∈ Entries.keys rest := (List.mem_cons.mp hk).resolve_left (Ne.symm hp)
      obtain ⟨q, hq, h⟩ := ih (s := s.set p.1 p.2) ha
        ⟨hset.1, fun j hj => hset.2 j (List.mem_cons_of_mem _ hj)⟩ hrest
      exact ⟨q, List.mem_cons_of_mem _ hq, h⟩

/-- An unbound alias reads what is written at its name. -/
theorem get?_set_of_alias (hk : s.values.has k = false) (ha : s.aliases.get? k = some name)
    (hd : s.Direct name) (hne : k ≠ name) (v : Value) : (s.set name v).get? k = some v := by
  have hresolve : (s.set name v).resolve k = name := by
    rw [resolve_set, hd, if_neg hne, resolve_of_alias hk ha]
  have hread := get?_set_resolve s name v
  rw [hd, (hd.set name v).get?] at hread
  rw [get?, hresolve]
  exact hread

/-! ## Bindings of values that are no texts -/

section Unnamed

variable {key value : Value} {p : Value × Value} {ps : List (Value × Value)}

theorem writeUnnamed_ne_nil (key value : Value) (ps : List (Value × Value)) :
    writeUnnamed key value ps ≠ [] := by
  cases ps with
  | nil => exact List.cons_ne_nil _ _
  | cons q rest =>
    rw [writeUnnamed]
    split <;> exact List.cons_ne_nil _ _

/-- A write leaves the bindings of other values. -/
theorem mem_writeUnnamed (hp : p ∈ ps) (hkey : p.1.identical key = false) :
    p ∈ writeUnnamed key value ps := by
  induction ps with
  | nil => cases hp
  | cons q rest ih =>
    rw [writeUnnamed]
    obtain rfl | hp := List.mem_cons.mp hp
    · rw [if_neg (by simp [hkey])]
      exact List.mem_cons_self
    · split
      · exact List.mem_cons_of_mem _ hp
      · exact List.mem_cons_of_mem _ (ih hp)

/-- What is bound after a write was bound before, or is what is written. -/
theorem mem_of_mem_writeUnnamed (hp : p ∈ writeUnnamed key value ps) :
    p ∈ ps ∨ (p.1 = key ∨ p.1.identical key = true) ∧ p.2 = value := by
  induction ps with
  | nil =>
    obtain rfl := List.mem_singleton.mp hp
    exact .inr ⟨.inl rfl, rfl⟩
  | cons q rest ih =>
    rw [writeUnnamed] at hp
    split at hp
    · rename_i hkey
      obtain rfl | hp := List.mem_cons.mp hp
      · exact .inr ⟨.inr hkey, rfl⟩
      · exact .inl (List.mem_cons_of_mem _ hp)
    · obtain rfl | hp := List.mem_cons.mp hp
      · exact .inl List.mem_cons_self
      · exact (ih hp).imp_left (List.mem_cons_of_mem _)

end Unnamed

end Scope
end TokenFormula
