import TokenFormula.Algorithm.Wire
import TokenFormula.Proofs.Scope

/-!
# Reading written records

A reader and a writer fit together if everything that was read is written in a form
that is read as the same again. That holds of each reader of a part, and the ways to
put readers together keep it: lists, dictionaries, parts that may be missing and
fields with defaults.

Only a part that may be any value needs more: a number in it that is not finite is
written as null, so the data that is read first must have finite numbers only.

Results:
* `Value.AllFinite`, `stored_of_allFinite`: finite data is written as it is.
* `PartReader.list_eq_ok_iff`, `PartReader.entries_eq_ok_iff`: what a list and a
  dictionary are read as.
* `RoundTrip`: what is read is read again from what is written.
* `RoundTrip.list`, `RoundTrip.entries`, `RoundTrip.field`, `RoundTrip.field?`,
  `RoundTrip.record`: the ways to put readers together.
-/

namespace TokenFormula

/-! ## Checked results -/

namespace Checked

variable {α β : Type}

theorem map_eq_ok_iff {f : α → β} {c : Checked α} {b : β} :
    f <$> c = .ok b ↔ ∃ a, c = .ok a ∧ f a = b := by
  cases c with
  | ok a =>
    show Checked.ok (f a) = _ ↔ _
    simp
  | bad is =>
    show Checked.bad is = _ ↔ _
    simp

theorem seq_eq_ok_iff {f : Checked (α → β)} {c : Checked α} {b : β} :
    f <*> c = .ok b ↔ ∃ g, f = .ok g ∧ ∃ a, c = .ok a ∧ g a = b := by
  show combine f c = _ ↔ _
  cases f <;> cases c <;> simp [combine]

theorem exists_map_iff {f : α → β} {c : Checked α} {p : β → Prop} :
    (∃ b, f <$> c = .ok b ∧ p b) ↔ ∃ a, c = .ok a ∧ p (f a) := by
  constructor
  · rintro ⟨b, h, hp⟩
    obtain ⟨a, ha, rfl⟩ := map_eq_ok_iff.mp h
    exact ⟨a, ha, hp⟩
  · rintro ⟨a, ha, hp⟩
    exact ⟨f a, map_eq_ok_iff.mpr ⟨a, ha, rfl⟩, hp⟩

/-- The results of a record are those of its parts, one after the other. -/
theorem exists_seq_iff {f : Checked (α → β)} {c : Checked α} {p : β → Prop} :
    (∃ b, f <*> c = .ok b ∧ p b) ↔ ∃ g, f = .ok g ∧ ∃ a, c = .ok a ∧ p (g a) := by
  constructor
  · rintro ⟨b, h, hp⟩
    obtain ⟨g, hg, a, ha, rfl⟩ := seq_eq_ok_iff.mp h
    exact ⟨g, hg, a, ha, hp⟩
  · rintro ⟨g, hg, a, ha, hp⟩
    exact ⟨g a, seq_eq_ok_iff.mpr ⟨g, hg, a, ha, rfl⟩, hp⟩

theorem within_eq_ok_iff {p : Place} {c : Checked α} {a : α} :
    c.within p = .ok a ↔ c = .ok a := by
  cases c <;> simp [within]

theorem collect_eq_ok_iff {cs : List (Checked α)} {as : List α} :
    collect cs = .ok as ↔ cs = as.map .ok := by
  induction cs generalizing as with
  | nil => cases as <;> simp [collect]
  | cons c cs ih =>
    show List.cons <$> c <*> collect cs = .ok as ↔ _
    simp only [seq_eq_ok_iff, map_eq_ok_iff, ih]
    cases as with
    | nil => simp
    | cons a as =>
      constructor
      · rintro ⟨_, ⟨b, rfl, rfl⟩, bs, rfl, h⟩
        obtain ⟨rfl, rfl⟩ := List.cons.inj h
        rfl
      · rintro h
        obtain ⟨rfl, rfl⟩ := List.cons.inj h
        exact ⟨_, ⟨a, rfl, rfl⟩, as, rfl, rfl⟩

end Checked

/-! ## Lists and dictionaries -/

namespace PartReader

variable {α : Type}

theorem list_eq_ok_iff {r : PartReader α} {v : Value} {as : List α} :
    list r v = .ok as ↔ ∃ items, v = .list items ∧ items.map r = as.map .ok := by
  have hitems : ∀ (items : List Value) (n : Nat) (as : List α),
      (items.zipIdx n).map (fun p => (r p.1).within (.item p.2)) = as.map .ok ↔
        items.map r = as.map .ok := by
    intro items
    induction items with
    | nil => exact fun _ _ => .rfl
    | cons item items ih =>
      intro n as
      cases as with
      | nil => simp
      | cons a as => simp [List.zipIdx_cons, Checked.within_eq_ok_iff, ih]
  cases v with
  | list items => simp [list, Checked.collect_eq_ok_iff, hitems]
  | _ => simp [list, Checked.issue]

theorem entries_eq_ok_iff {r : PartReader α} {v : Value} {es : Entries α} :
    entries r v = .ok es ↔
      ∃ fs, v = .dict fs ∧ fs.map (fun p => (p.1, r p.2)) = es.map fun p => (p.1, .ok p.2) := by
  have hentries : ∀ (fs : Entries Value) (es : Entries α),
      fs.map (fun p => (Prod.mk p.1 <$> r p.2).within (.key p.1)) = es.map .ok ↔
        fs.map (fun p => (p.1, r p.2)) = es.map fun p => (p.1, .ok p.2) := by
    intro fs
    induction fs with
    | nil => intro es; cases es <;> simp
    | cons f fs ih =>
      intro es
      cases es with
      | nil => simp
      | cons e es =>
        simp only [List.map_cons, List.cons.injEq, Checked.within_eq_ok_iff,
          Checked.map_eq_ok_iff, ih]
        refine and_congr_left fun _ => ?_
        constructor
        · rintro ⟨a, ha, rfl⟩
          rw [ha]
        · intro h
          obtain ⟨h1, h2⟩ := Prod.mk.inj h
          exact ⟨e.2, h2, by rw [h1]⟩
  cases v with
  | dict fs => simp [entries, Checked.collect_eq_ok_iff, hentries]
  | _ => simp [entries, Checked.issue]

end PartReader

/-! ## Field names -/

namespace FieldName

@[simp] theorem single_wire (name : String) : (single name).wire = name := rfl

@[simp] theorem single_plain (name : String) : (single name).plain = name := rfl

/-- The entry of a field, if it has one, is one of the record. -/
theorem mem_of_find? {f : FieldName} {es : Entries Value} {name : String} {v : Value}
    (h : f.find? es = some (name, v)) : (name, v) ∈ es := by
  unfold find? at h
  split at h
  · rename_i hget
    cases h
    exact Entries.mem_of_get? hget
  · obtain ⟨u, hget, he⟩ := Option.map_eq_some_iff.mp h
    cases he
    exact Entries.mem_of_get? hget

end FieldName

/-- An entry that may be left out. -/
@[simp] theorem get?_optionalEntry {α : Type} (key name : String) (write : α → Value)
    (o : Option α) :
    (optionalEntry name write o).get? key = if name = key then o.map write else none := by
  cases o with
  | none => split <;> rfl
  | some a => rfl

/-! ## Finite data -/

namespace Value

mutual

/-- Every number in the value is finite. -/
def AllFinite : Value → Prop
  | .num n => n.isFinite = true
  | .list items => ItemsFinite items
  | .dict entries => EntriesFinite entries
  | _ => True

/-- Every number in the elements is finite. -/
def ItemsFinite : List Value → Prop
  | [] => True
  | v :: rest => v.AllFinite ∧ ItemsFinite rest

/-- Every number in the entries is finite. -/
def EntriesFinite : List (String × Value) → Prop
  | [] => True
  | (_, v) :: rest => v.AllFinite ∧ EntriesFinite rest

end

theorem allFinite_list {items : List Value} :
    (Value.list items).AllFinite ↔ ∀ v ∈ items, v.AllFinite := by
  rw [AllFinite]
  induction items with
  | nil => simp [ItemsFinite]
  | cons v rest ih => rw [ItemsFinite, ih, List.forall_mem_cons]

theorem allFinite_dict {es : Entries Value} :
    (Value.dict es).AllFinite ↔ ∀ p ∈ es, p.2.AllFinite := by
  rw [AllFinite]
  induction es with
  | nil => simp [EntriesFinite]
  | cons e rest ih => rw [EntriesFinite, ih, List.forall_mem_cons]

theorem stored_dict (es : Entries Value) :
    (Value.dict es).stored = .dict (es.map fun p => (p.1, p.2.stored)) := by
  rw [stored]
  congr 1
  induction es with
  | nil => rfl
  | cons e rest ih => rw [storedEntries, ih, List.map_cons]

mutual

/-- Finite data is written as it is, nulls included. -/
theorem stored_of_allFinite : (v : Value) → v.AllFinite → v.stored = v
  | .num n, h => by
    rw [AllFinite] at h
    rw [stored, if_pos h]
  | .list items, h => by
    rw [AllFinite] at h
    rw [stored, storedItems_of_finite items h]
  | .dict entries, h => by
    rw [AllFinite] at h
    rw [stored, storedEntries_of_finite entries h]
  | .null, _ | .bool _, _ | .text _, _ | .function _, _ => rfl

theorem storedItems_of_finite : (items : List Value) → ItemsFinite items →
    storedItems items = items
  | [], _ => rfl
  | v :: rest, h => by
    rw [ItemsFinite] at h
    rw [storedItems, stored_of_allFinite v h.1, storedItems_of_finite rest h.2]

theorem storedEntries_of_finite : (es : List (String × Value)) → EntriesFinite es →
    storedEntries es = es
  | [], _ => rfl
  | (k, v) :: rest, h => by
    rw [EntriesFinite] at h
    rw [storedEntries, stored_of_allFinite v h.1, storedEntries_of_finite rest h.2]

end

end Value

/-! ## Readers and writers -/

/-- What is read from finite data is read again from what is written. -/
def RoundTrip {α : Type} (r : PartReader α) (w : α → Value) : Prop :=
  ∀ ⦃v a⦄, v.AllFinite → r v = .ok a → r (w a) = .ok a

namespace PartReader

theorem roundTrip_text : RoundTrip text .text :=
  fun _ _ _ _ => rfl

theorem roundTrip_boolean : RoundTrip boolean .bool :=
  fun _ _ _ _ => rfl

/-- A number keeps its type, also where it was read from a text or a truth value. -/
theorem roundTrip_number : RoundTrip number .num :=
  fun _ _ _ _ => rfl

/-- A scalar keeps its type. -/
theorem roundTrip_scalar : RoundTrip scalar id := by
  intro v a _ h
  cases v <;> cases h <;> rfl

theorem roundTrip_any : RoundTrip any Value.stored := by
  intro v a hv h
  cases h
  rw [Value.stored_of_allFinite v hv, any]

theorem roundTrip_choice {α : Type} {ofName? : String → Option α} {name : α → String}
    (h : ∀ a, ofName? (name a) = some a) : RoundTrip (choice ofName?) fun a => .text (name a) := by
  intro v a _ _
  simp only [choice, h]

end PartReader

namespace RoundTrip

open PartReader

variable {α : Type} {r : PartReader α} {w : α → Value}

theorem list (hr : RoundTrip r w) : RoundTrip (list r) fun as => .list (as.map w) := by
  intro v as hv h
  obtain ⟨items, rfl, hitems⟩ := list_eq_ok_iff.mp h
  rw [Value.allFinite_list] at hv
  refine list_eq_ok_iff.mpr ⟨_, rfl, ?_⟩
  rw [List.map_map]
  refine List.map_congr_left fun a ha => ?_
  -- Each result is that of an element, which is finite.
  have hmem : Checked.ok a ∈ items.map r := hitems ▸ List.mem_map_of_mem ha
  obtain ⟨item, hitem, hread⟩ := List.mem_map.mp hmem
  exact hr (hv item hitem) hread

theorem entries (hr : RoundTrip r w) :
    RoundTrip (entries r) fun es => .dict (es.map fun p => (p.1, w p.2)) := by
  intro v es hv h
  obtain ⟨fs, rfl, hfs⟩ := entries_eq_ok_iff.mp h
  rw [Value.allFinite_dict] at hv
  refine entries_eq_ok_iff.mpr ⟨_, rfl, ?_⟩
  rw [List.map_map]
  refine List.map_congr_left fun e he => ?_
  have hmem : (e.1, Checked.ok e.2) ∈ fs.map fun p => (p.1, r p.2) :=
    hfs ▸ List.mem_map_of_mem (f := fun p : String × α => (p.1, Checked.ok p.2)) he
  obtain ⟨f, hf, hread⟩ := List.mem_map.mp hmem
  show (e.1, r (w e.2)) = (e.1, .ok e.2)
  rw [hr (hv f hf) (Prod.mk.inj hread).2]

/-! ## Fields -/

variable {f : FieldName} {es es' : Entries Value}

/-- A field that is always written is read again. Its default has to be, because it may
    be the default that was written. -/
theorem field {d a : α} (hr : RoundTrip r w) (hd : r (w d) = .ok d)
    (hes : ∀ p ∈ es, p.2.AllFinite) (h : f.readOr d r es = .ok a)
    (hwritten : es'.get? f.wire = some (w a)) : f.readOr d r es' = .ok a := by
  have hread : r (w a) = .ok a := by
    unfold FieldName.readOr at h
    split at h
    · rename_i hfind
      exact hr (hes _ (FieldName.mem_of_find? hfind)) (Checked.within_eq_ok_iff.mp h)
    · cases h
      exact hd
  unfold FieldName.readOr FieldName.find?
  rw [hwritten]
  exact Checked.within_eq_ok_iff.mpr hread

/-- A field that is left out where there is nothing to write is read again. What is
    written must not be null, which is read as nothing. -/
theorem field? {o : Option α} (hr : RoundTrip r w) (hw : ∀ a, w a ≠ .null)
    (hes : ∀ p ∈ es, p.2.AllFinite) (h : f.readOr none (optional r) es = .ok o)
    (hwritten : es'.get? f.wire = o.map w) (hplain : o = none → es'.get? f.plain = none) :
    f.readOr none (optional r) es' = .ok o := by
  have hoptional : ∀ v, v ≠ .null → optional r v = some <$> r v := by
    intro v hv
    cases v with
    | null => exact absurd rfl hv
    | _ => rfl
  unfold FieldName.readOr FieldName.find?
  rw [hwritten]
  cases o with
  | none => simp [hplain rfl]
  | some a =>
    have hread : r (w a) = .ok a := by
      unfold FieldName.readOr at h
      split at h
      · rename_i name v hfind
        have h := Checked.within_eq_ok_iff.mp h
        rw [hoptional v (fun hv => by rw [hv] at h; cases h)] at h
        obtain ⟨a', ha', he⟩ := Checked.map_eq_ok_iff.mp h
        obtain rfl := Option.some.inj he
        exact hr (hes _ (FieldName.mem_of_find? hfind)) ha'
      · cases h
    refine Checked.within_eq_ok_iff.mpr ?_
    rw [hoptional _ (hw a), hread]
    rfl

/-- A record is read again if its fields are. -/
theorem record {g : Entries Value → Checked α} {we : α → Entries Value}
    (h : ∀ es a, (∀ p ∈ es, p.2.AllFinite) → g es = .ok a → g (we a) = .ok a) :
    RoundTrip (record g) fun a => .dict (we a) := by
  intro v a hv hread
  cases v with
  | dict es => exact h es a (Value.allFinite_dict.mp hv) hread
  | _ => cases hread

end RoundTrip

end TokenFormula
