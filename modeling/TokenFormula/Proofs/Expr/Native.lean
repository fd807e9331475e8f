import TokenFormula.Proofs.Expr.Fold
import TokenFormula.Proofs.Expr.Results

/-!
# Native values

A formula text writes numbers, texts, truth values and null. Evaluated in a
scope that holds such values and the two tables, it gives such a value again and
leaves such a scope. Under `Math` there is then either the table, or a value in
which no function is found.

Results:
* `stable_native`: native values along an evaluation.
* `findsFunctions_of_native`: a function of the table is found, or the call
  fails.
-/

namespace TokenFormula

/-- Neither a list nor a function; a dictionary is one of the two tables. -/
def Value.Native : Value → Prop
  | .list _ | .function _ => False
  | .dict entries => entries = mathTable ∨ entries = arrayTable
  | _ => True

/-- All bindings are native. -/
def Scope.Native (s : Scope) : Prop :=
  ∀ name v, s.values.get? name = some v → v.Native

theorem Scope.Native.get? {s : Scope} (h : s.Native) {key : String} {v : Value}
    (hv : s.get? key = some v) : v.Native :=
  h _ _ hv

theorem Scope.Native.set {s : Scope} (h : s.Native) (key : String) {v : Value} (hv : v.Native) :
    (s.set key v).Native := by
  intro name w hw
  by_cases hn : name = s.resolve key
  · subst hn
    rw [show (s.set key v).values = s.values.set (s.resolve key) v from rfl,
      Entries.get?_set_self] at hw
    obtain rfl := Option.some.inj hw
    exact hv
  · rw [show (s.set key v).values = s.values.set (s.resolve key) v from rfl,
      Entries.get?_set_of_ne hn] at hw
    exact h _ _ hw

namespace Value

theorem Native.normalize {v : Value} (h : v.Native) : v.normalize.Native := by
  cases v <;> exact h

end Value

/-! ## Results -/

theorem Value.IsScalar.native {v : Value} (h : v.IsScalar) : v.Native := by
  cases v with
  | list | dict | function => exact h.elim
  | _ => trivial

theorem combine_native {o : BinaryOp} {a b c : Value} (hb : b.Native)
    (h : o.combine a b = .ok c) : c.Native := by
  obtain rfl | ⟨d, hd, rfl⟩ := combine_result h
  · exact hb
  · exact hd.native.normalize

theorem unaryValue_native {op a b : Value} (h : Expr.unaryValue op a = .ok b) : b.Native := by
  obtain ⟨n, -, rfl | rfl⟩ | ⟨p, rfl⟩ := unaryValue_result h <;> trivial

/-- What is found in a table is a number or a function. -/
theorem table_entry {entries : Entries Value} (h : entries = mathTable ∨ entries = arrayTable)
    {key : String} {v : Value} (hv : entries.get? key = some v) :
    v.Native ∨ ∃ f, v = .function f := by
  have hmath : ∀ p ∈ mathTable, p.2.Native ∨ ∃ f, p.2 = .function f := by
    simp [mathTable, Value.Native, Value.real]
  have harray : ∀ p ∈ arrayTable, p.2.Native ∨ ∃ f, p.2 = .function f := by
    simp [arrayTable]
  obtain rfl | rfl := h
  · exact hmath _ (Entries.mem_of_get? hv)
  · exact harray _ (Entries.mem_of_get? hv)

theorem target_native {s : Scope} (hs : s.Native) {dotted : String} {f : Value}
    (h : Expr.target s dotted = .ok f) : f.Native ∨ ∃ b, f = .function b := by
  refine Expr.target_keeps (P := fun v => v.Native ∨ ∃ b, v = .function b) (fun he hv => ?_)
    (fun _ _ hv => .inl (hs.get? hv)) h
  obtain he | ⟨b, hb⟩ := he
  · exact table_entry he hv
  · cases hb

theorem callValue_native {name : String} {f v : Value} {args : List Value}
    (hf : f.Native ∨ ∃ b, f = .function b) (ha : ∀ w ∈ args, w.Native)
    (h : Expr.callValue name f args = .ok v) : v.Native := by
  obtain ⟨w, hw | hw, rfl⟩ | ⟨rfl, hn⟩ := callValue_result h
  · exact hw.native.normalize
  · exact (ha w hw).normalize
  · obtain hf | ⟨b, rfl⟩ := hf
    · exact hf
    · exact absurd rfl (hn b)

/-! ## Trees -/

namespace Expr

/-- A literal holds a value that a formula text writes; numbers are in normal
    form. -/
def LiteralNative : Expr → Prop
  | literal (some (.num n)) _ _ => n.isNormal = true
  | literal (some v) _ _ => v.Native
  | _ => True

theorem stable_native : Stable LiteralNative Value.Native Scope.Native where
  literal {v fallback note} hp {a} h := by
    unfold literalValue at h
    split at h
    · obtain ⟨shown, -, h⟩ := bind_eq_ok h
      cases h
    · split at h
      · rename_i w
        obtain rfl := Except.ok.inj h
        cases w <;> first | exact hp | trivial
      · cases h
  var hs h := by
    obtain ⟨key, hv⟩ := get?_of_variableValue h
    exact hs.get? hv
  unary _ h := unaryValue_native h
  binary _ hb h := combine_native hb h
  call hs hf ha h := callValue_native (target_native hs hf) ha h
  bind {name e note} _ {s a s'} hs ha h := by
    unfold bind at h
    split at h
    · rw [← Except.ok.inj h]
      exact hs.set _ ha
    · split at h
      · rw [← Except.ok.inj h]
        exact hs
      · cases h

/-- In a scope of native values a function of the table is found, or the call
    fails. -/
theorem findsFunctions_of_native {s : Scope} (hs : s.Native) : FindsFunctions True s := by
  intro name f h
  obtain ⟨rfl, hf⟩ := eq_path_of_foldable h
  obtain ⟨m, hm, -, hn⟩ := exists_splitAt_path hf
  cases hv : s.get? "Math" with
  | none =>
    right
    unfold target
    simp only [hm, hv]
    exact ⟨trivial, _, rfl⟩
  | some v =>
    have hnative := hs.get? hv
    cases v with
    | dict entries =>
      obtain rfl | rfl := hnative
      · exact .inl (target_path hv hf)
      · right
        unfold target
        simp only [hm, hv, member?, hn]
        exact ⟨trivial, _, rfl⟩
    | _ =>
      right
      unfold target
      simp only [hm, hv, member?]
      exact ⟨trivial, _, rfl⟩

end Expr
end TokenFormula
