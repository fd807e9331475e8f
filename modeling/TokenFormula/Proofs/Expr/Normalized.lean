import TokenFormula.Proofs.Expr.Optimize

/-!
# Values in normal form

A value is normalized if no double inside it is an integer below `2^53` in
magnitude: an integral result is an integer. Operators and functions bring what they
make into normal form; what they pass on was in normal form before. So evaluation
leads from normalized values to normalized values, and a failure does not spoil the
bindings that it leaves.

Results:
* `Value.Normalized`, `Scope.Normalized`: the normal form at any depth.
* `stable_normalized`: what an evaluation step keeps.
* `normalized_withTables`: the tables are normalized.
* `evaluate_normalized`: results and bindings of formula texts, optimized or not.
-/

namespace TokenFormula

/-! ## Normal form at any depth -/

/-- Every number inside the value is in normal form. -/
inductive Value.Normalized : Value → Prop
  | null : Normalized .null
  | bool (b : Bool) : Normalized (.bool b)
  | num {n : Number} (h : n.isNormal = true) : Normalized (.num n)
  | text (s : String) : Normalized (.text s)
  | list {items : List Value} (h : ∀ v ∈ items, Normalized v) : Normalized (.list items)
  | dict {entries : List (String × Value)} (h : ∀ p ∈ entries, Normalized p.2) :
    Normalized (.dict entries)
  | function (f : Builtin) : Normalized (.function f)

/-- Every bound value is normalized. -/
def Scope.Normalized (s : Scope) : Prop :=
  ∀ p ∈ s.bindings, p.2.Normalized

namespace Value

variable {v : Value}

theorem Normalized.normalize (h : v.Normalized) : v.normalize.Normalized := by
  cases h with
  | null => exact .null
  | bool b => exact .bool b
  | num => exact .num (Number.isNormal_normalize _)
  | text s => exact .text s
  | list h => exact .list h
  | dict h => exact .dict h
  | function f => exact .function f

/-- A scalar is normalized as soon as it is in normal form itself. -/
theorem IsScalar.normalized (h : v.IsScalar) : v.normalize.Normalized := by
  cases v with
  | null => exact .null
  | bool b => exact .bool b
  | num n => exact .num n.isNormal_normalize
  | text s => exact .text s
  | list | dict | function => exact h.elim

theorem Normalized.number? (h : v.Normalized) {n : Number} (hn : v.number? = some n) :
    n.isNormal = true := by
  cases h with
  | bool b =>
    obtain rfl := Option.some.inj hn
    rfl
  | num h =>
    obtain rfl := Option.some.inj hn
    exact h
  | null | text | list | dict | function => cases hn

theorem Normalized.get? {entries : Entries Value} {key : String}
    (h : (Value.dict entries).Normalized) (hv : entries.get? key = some v) : v.Normalized := by
  cases h with
  | dict h => exact h _ (Entries.mem_of_get? hv)

end Value

/-! ## Tables -/

theorem normalized_mathTable : (Value.dict mathTable).Normalized := by
  refine .dict ?_
  simp only [mathTable, List.forall_mem_cons, List.not_mem_nil, false_imp_iff, implies_true,
    and_true, Value.Normalized.function, true_and]
  exact ⟨.num (by decide +kernel), .num (by decide +kernel)⟩

theorem normalized_arrayTable : (Value.dict arrayTable).Normalized := by
  refine .dict fun p hp => ?_
  obtain rfl := List.mem_singleton.mp hp
  exact .function _

/-- A native value is normalized, unless it is a number that is not. -/
theorem Value.Native.normalized {v : Value} (h : v.Native)
    (hn : ∀ n, v = .num n → n.isNormal = true) : v.Normalized := by
  cases v with
  | null => exact .null
  | bool b => exact .bool b
  | num n => exact .num (hn n rfl)
  | text s => exact .text s
  | dict entries =>
    obtain rfl | rfl := h
    · exact normalized_mathTable
    · exact normalized_arrayTable
  | list | function => exact h.elim

/-! ## Scopes -/

namespace Scope

variable {s : Scope}

theorem Normalized.get? (h : s.Normalized) {key : String} {v : Value}
    (hv : s.get? key = some v) : v.Normalized :=
  h (.text (s.resolve key), v)
    (List.mem_append_left _ (List.mem_map_of_mem (Entries.mem_of_get? hv)))

theorem Normalized.set (h : s.Normalized) (key : String) {v : Value} (hv : v.Normalized) :
    (s.set key v).Normalized := by
  intro p hp
  obtain hp | hp := List.mem_append.mp hp
  · obtain ⟨q, hq, rfl⟩ := List.mem_map.mp hp
    obtain hq | rfl := Entries.mem_set hq
    · exact h _ (List.mem_append_left _ (List.mem_map_of_mem hq))
    · exact hv
  · exact h p (List.mem_append_right _ hp)

theorem Normalized.setUnnamed (h : s.Normalized) (key : Value) {v : Value} (hv : v.Normalized) :
    (s.setUnnamed key v).Normalized := by
  intro p hp
  obtain hp | hp := List.mem_append.mp hp
  · exact h p (List.mem_append_left _ hp)
  · obtain hp | ⟨-, hp⟩ := mem_of_mem_writeUnnamed hp
    · exact h p (List.mem_append_right _ hp)
    · rw [hp]
      exact hv

theorem Normalized.withTables (h : s.Normalized) : s.withTables.Normalized :=
  (h.set "Math" normalized_mathTable).set "Array" normalized_arrayTable

end Scope

/-! ## Evaluation -/

namespace Expr

/-- What an evaluation step makes is in normal form, and what it passes on was. -/
theorem stable_normalized : Stable LiteralNative Value.Normalized Scope.Normalized where
  literal {v fallback note} hp {a} h := by
    unfold literalValue at h
    split at h
    · obtain ⟨shown, -, h⟩ := bind_eq_ok h
      cases h
    · split at h
      · rename_i w
        obtain rfl := Except.ok.inj h
        cases w with
        | num n => exact .num hp
        | _ => exact Value.Native.normalized hp nofun
      · cases h
  var hs h := by
    obtain ⟨key, hv⟩ := get?_of_variableValue h
    exact hs.get? hv
  unary {op a b} ha h := by
    obtain ⟨n, hn, rfl | rfl⟩ | ⟨p, rfl⟩ := unaryValue_result h
    · exact .num (ha.number? hn)
    · exact .num (Number.isNormal_normalize _)
    · exact .bool p
  binary _ hb h := by
    obtain rfl | ⟨d, hd, rfl⟩ := combine_result h
    · exact hb
    · exact hd.normalized
  call hs hf ha h := by
    obtain ⟨w, hw | hw, rfl⟩ | ⟨rfl, -⟩ := callValue_result h
    · exact hw.normalized
    · exact (ha w hw).normalize
    · exact target_keeps Value.Normalized.get? (fun _ _ hv => hs.get? hv) hf
  bind {name e note} _ {s a s'} hs ha h := by
    unfold bind at h
    split at h
    · rw [← Except.ok.inj h]
      exact hs.set _ ha
    · split at h
      · rw [← Except.ok.inj h]
        exact hs.setUnnamed _ ha
      · cases h

/-- Evaluated where every bound value is normalized, a formula text has a normalized
    result if it has one, and leaves normalized bindings in any case; so has the tree
    that the optimizer makes of it. -/
theorem evaluate_normalized (source : String) (maxRounds : Int) {s : Scope} (hs : s.Normalized) :
    Meets Value.Normalized Scope.Normalized ((parse source).evaluate s) ∧
    Meets Value.Normalized Scope.Normalized (((parse source).optimize maxRounds).evaluate s) := by
  have hlit := literalNative_parse source
  exact ⟨stable_normalized.evaluate _ hlit s hs,
    stable_normalized.evaluate _ (optimize_literalNative maxRounds hlit) s hs⟩

/-- A dictionary with a number in a list, beside the tables. -/
theorem evaluate_normalized_nested :
    let s := Scope.empty.withTables.set "rates"
      (.dict [("steps", .list [.num (.int 1), .num (.real (Double.ofQuotient false 1 2))])])
    s.Normalized ∧
    Meets Value.Normalized Scope.Normalized ((parse "y = 4 / 2 + 0").evaluate s) ∧
    Meets Value.Normalized Scope.Normalized (((parse "y = 4 / 2 + 0").optimize 8).evaluate s) := by
  intro s
  have hempty : Scope.empty.Normalized := fun _ hp => by cases hp
  have hs : s.Normalized := by
    refine hempty.withTables.set "rates" (.dict fun p hp => ?_)
    obtain rfl := List.mem_singleton.mp hp
    refine .list fun v hv => ?_
    rcases List.mem_cons.mp hv with rfl | hv
    · exact .num rfl
    · obtain rfl := List.mem_singleton.mp hv
      exact .num (by decide +kernel)
  exact ⟨hs, evaluate_normalized "y = 4 / 2 + 0" 8 hs⟩

end Expr
end TokenFormula
