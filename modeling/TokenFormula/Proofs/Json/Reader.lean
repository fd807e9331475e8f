import TokenFormula.Json.Reader
import TokenFormula.Proofs.Source.Numeral
import TokenFormula.Proofs.Value.Text

/-!
# Values read from JSON

The reader refuses an integer with too many digits wherever it stands, so each value
that is read can be shown, however deep it is nested.

Results:
* `hasText_of_readNumber`: a number that is read has a text.
* `hasText_of_readValue`: so has a value, by its parts.
* `hasText_of_read`: so has the value of a whole text.
-/

namespace TokenFormula

/-! ## Entries -/

namespace Entries

variable {key : String} {v : Value} {es : Entries Value}

theorem hasText_set (hv : v.HasText) (h : Value.EntriesHaveText es) :
    Value.EntriesHaveText (es.set key v) := by
  induction es with
  | nil => exact ⟨hv, trivial⟩
  | cons e rest ih =>
    obtain ⟨k, w⟩ := e
    rw [set]
    split
    · exact ⟨hv, h.2⟩
    · exact ⟨h.1, ih h.2⟩

theorem hasText_foldl_set {pairs : List (String × Value)} (h : Value.EntriesHaveText pairs)
    (hes : Value.EntriesHaveText es) :
    Value.EntriesHaveText (pairs.foldl (fun (es : Entries Value) p => es.set p.1 p.2) es) := by
  induction pairs generalizing es with
  | nil => exact hes
  | cons p rest ih => exact ih h.2 (hasText_set h.1 hes)

theorem hasText_ofPairs {pairs : List (String × Value)} (h : Value.EntriesHaveText pairs) :
    Value.EntriesHaveText (ofPairs pairs) :=
  hasText_foldl_set h trivial

theorem hasText_of_get? (h : Value.EntriesHaveText es) (hk : es.get? key = some v) :
    v.HasText := by
  induction es with
  | nil => cases hk
  | cons e rest ih =>
    obtain ⟨k, w⟩ := e
    rw [get?_cons] at hk
    split at hk
    · exact Option.some.inj hk ▸ h.1
    · exact ih h.2 hk

end Entries

namespace Json

/-! ## Parts of a text -/

theorem hasText_of_readNumber {c : Cursor} {r : Number × Cursor} (h : readNumber c = .ok r) :
    r.1.HasText := by
  unfold readNumber at h
  extract_lets sign body whole fraction exponent numeral next at h
  split at h
  · cases h
  · split at h
    · split at h
      · rename_i k hk
        cases h
        -- A numeral may have just the digits that a text may have.
        exact Source.natAbs_lt_of_readInteger hk
      · cases h
      · cases h
    · cases h
      trivial

theorem hasText_of_nameAt? {cs : List Char} {name : String} {v : Value}
    (h : nameAt? cs = some (name, v)) : v.HasText := by
  have hmem : (name, v) ∈ names := List.mem_of_find?_eq_some h
  simp only [names, List.mem_cons, Prod.mk.injEq, List.not_mem_nil, or_false] at hmem
  obtain ⟨-, rfl⟩ | ⟨-, rfl⟩ | ⟨-, rfl⟩ | ⟨-, rfl⟩ | ⟨-, rfl⟩ | ⟨-, rfl⟩ := hmem <;> trivial

mutual

theorem hasText_of_readValue : (fuel : Nat) → {c : Cursor} → {r : Value × Cursor} →
    readValue fuel c = .ok r → r.1.HasText
  | 0, _, _, h => by cases h
  | fuel + 1, _, _, h => by
    rw [readValue] at h
    split at h
    · obtain ⟨_, -, h⟩ := bind_eq_ok h
      cases h
      trivial
    · dsimp only at h
      split at h
      · cases h
        trivial
      · obtain ⟨_, hitems, h⟩ := bind_eq_ok h
        cases h
        exact itemsHaveText_of_readItems fuel hitems
    · dsimp only at h
      split at h
      · cases h
        trivial
      · obtain ⟨_, hmembers, h⟩ := bind_eq_ok h
        cases h
        exact Entries.hasText_ofPairs (entriesHaveText_of_readMembers fuel hmembers)
    · split at h
      · rename_i hname
        cases h
        exact hasText_of_nameAt? hname
      · obtain ⟨_, hnumber, h⟩ := bind_eq_ok h
        cases h
        exact hasText_of_readNumber hnumber

theorem itemsHaveText_of_readItems : (fuel : Nat) → {c : Cursor} → {r : List Value × Cursor} →
    readItems fuel c = .ok r → Value.ItemsHaveText r.1
  | 0, _, _, h => by cases h
  | fuel + 1, _, _, h => by
    rw [readItems] at h
    obtain ⟨_, hv, h⟩ := bind_eq_ok h
    dsimp only at h
    split at h
    · cases h
      exact ⟨hasText_of_readValue fuel hv, trivial⟩
    · obtain ⟨_, hvs, h⟩ := bind_eq_ok h
      cases h
      exact ⟨hasText_of_readValue fuel hv, itemsHaveText_of_readItems fuel hvs⟩
    · cases h

theorem entriesHaveText_of_readMembers : (fuel : Nat) → {c : Cursor} →
    {r : List (String × Value) × Cursor} → readMembers fuel c = .ok r →
      Value.EntriesHaveText r.1
  | 0, _, _, h => by cases h
  | fuel + 1, _, _, h => by
    rw [readMembers] at h
    split at h
    · cases h
    · obtain ⟨⟨_, _⟩, -, h⟩ := bind_eq_ok h
      dsimp only at h
      split at h
      · cases h
      · obtain ⟨_, hv, h⟩ := bind_eq_ok h
        split at h
        · cases h
          exact ⟨hasText_of_readValue fuel hv, trivial⟩
        · obtain ⟨_, hms, h⟩ := bind_eq_ok h
          cases h
          exact ⟨hasText_of_readValue fuel hv, entriesHaveText_of_readMembers fuel hms⟩
        · cases h

end

/-! ## Whole texts -/

/-- Every value that is read has a text. -/
theorem hasText_of_read {s : String} {v : Value} (h : read s = .ok v) : v.HasText := by
  have h := mapError_eq_ok h
  unfold readAll at h
  split at h
  · cases h
  · obtain ⟨_, hv, h⟩ := bind_eq_ok h
    dsimp only at h
    split at h
    · cases h
      exact hasText_of_readValue _ hv
    · cases h

end Json
end TokenFormula
