import TokenFormula.Proofs.Number.Limit
import TokenFormula.Proofs.Sequence
import TokenFormula.Value.Text

/-!
# Values that have a text

A value has a text unless an integer in it has too many digits, however deep the
integer lies in lists and dictionaries.

Results:
* `Value.exists_display_iff`: which values can be shown in a message.
* `Value.exists_format_iff`: which values can be shown as a result.
-/

namespace TokenFormula

/-! ## Numbers -/

namespace Number

/-- An integer has at most as many digits as a text may have. -/
def HasText : Number → Prop
  | int n => n.natAbs < textLimit
  | real _ => True

theorem exists_integerText_iff (n : Int) :
    (∃ s, integerText n = .ok s) ↔ n.natAbs < textLimit := by
  unfold integerText
  by_cases h : n.natAbs < textLimit
  · simp [h]
  · simp [h]

theorem exists_display_iff (n : Number) : (∃ s, n.display = .ok s) ↔ n.HasText := by
  cases n with
  | int k => exact exists_integerText_iff k
  | real x => simp [display, HasText]

theorem hasText_normalize {n : Number} : n.normalize.HasText ↔ n.HasText := by
  cases n with
  | int k => rfl
  | real x =>
    unfold normalize
    dsimp only
    split
    · split
      · rename_i hlt
        simp [HasText, safeLimit_lt_textLimit hlt]
      · rfl
    · rfl

theorem exists_text_iff (n : Number) : (∃ s, n.text = .ok s) ↔ n.HasText := by
  rw [← hasText_normalize, text]
  cases n.normalize with
  | int k => exact exists_integerText_iff k
  | real x => simp [HasText]

theorem hasText_magnitude {n : Number} : n.magnitude.HasText ↔ n.HasText := by
  cases n with
  | int k => rw [magnitude, HasText, HasText, Int.natAbs_natCast]
  | real x => simp [magnitude, HasText]

end Number

/-! ## Values -/

namespace Value

mutual

/-- Every integer in the value has a text. -/
def HasText : Value → Prop
  | num n => n.HasText
  | list items => ItemsHaveText items
  | dict entries => EntriesHaveText entries
  | _ => True

/-- Every integer in the elements of a list has a text. -/
def ItemsHaveText : List Value → Prop
  | [] => True
  | v :: rest => v.HasText ∧ ItemsHaveText rest

/-- Every integer in the entries of a dictionary has a text. -/
def EntriesHaveText : List (String × Value) → Prop
  | [] => True
  | (_, v) :: rest => v.HasText ∧ EntriesHaveText rest

end

theorem itemsHaveText_iff {items : List Value} :
    ItemsHaveText items ↔ ∀ v ∈ items, v.HasText := by
  induction items with
  | nil => exact iff_of_true trivial fun _ h => by cases h
  | cons v rest ih => rw [ItemsHaveText, ih, List.forall_mem_cons]

theorem hasText_int (k : Int) : (num (.int k)).HasText ↔ k.natAbs < Number.textLimit := by
  rw [HasText]
  exact .rfl

mutual

theorem exists_display_iff : (v : Value) → ((∃ s, v.display = .ok s) ↔ v.HasText)
  | null | bool _ | text _ | function _ => by simp [display, HasText]
  | num n => by
    rw [display, HasText]
    exact n.exists_display_iff
  | list items => by
    rw [display, HasText, exists_bind_pure_iff]
    exact exists_displayItems_iff items
  | dict entries => by
    rw [display, HasText, exists_bind_pure_iff]
    exact exists_displayEntries_iff entries

theorem exists_displayItems_iff : (items : List Value) →
    ((∃ ss, displayItems items = .ok ss) ↔ ItemsHaveText items)
  | [] => by simp [displayItems, ItemsHaveText]
  | v :: rest => by
    rw [displayItems, ItemsHaveText, exists_bind_bind_pure_iff, exists_display_iff v,
      exists_displayItems_iff rest]

theorem exists_displayEntries_iff : (entries : List (String × Value)) →
    ((∃ ss, displayEntries entries = .ok ss) ↔ EntriesHaveText entries)
  | [] => by simp [displayEntries, EntriesHaveText]
  | (k, v) :: rest => by
    rw [displayEntries, EntriesHaveText, exists_bind_bind_pure_iff, exists_display_iff v,
      exists_displayEntries_iff rest]

end

theorem exists_plain_iff (v : Value) : (∃ s, v.plain = .ok s) ↔ v.HasText := by
  cases v with
  | text s => exact iff_of_true ⟨s, rfl⟩ trivial
  | _ => exact exists_display_iff _

mutual

theorem exists_format_iff : (v : Value) → ((∃ s, v.format = .ok s) ↔ v.HasText)
  | null | bool _ | text _ | function _ => by simp [format, HasText]
  | num n => by
    rw [format, HasText]
    exact n.exists_text_iff
  | list items => by
    rw [format, HasText, exists_bind_pure_iff]
    exact exists_formatItems_iff items
  | dict entries => by
    rw [format]
    exact exists_display_iff (dict entries)

theorem exists_formatItems_iff : (items : List Value) →
    ((∃ ss, formatItems items = .ok ss) ↔ ItemsHaveText items)
  | [] => by simp [formatItems, ItemsHaveText]
  | v :: rest => by
    rw [formatItems, ItemsHaveText, exists_bind_bind_pure_iff, exists_format_iff v,
      exists_formatItems_iff rest]

end

end Value
end TokenFormula
