import TokenFormula.Proofs.Expr.Outcome
import TokenFormula.Proofs.Scope
import TokenFormula.Proofs.Text.Split

/-!
# Aliases in trees

A variable can be read and assigned under its name or under an alias. Where no
alias is bound and none stands for another alias, a key is looked up under the
same name during the whole evaluation, so a tree may as well use the names: it
has the same value, fails in the same cases and writes the same bindings.

Results:
* `Expr.renamed`: a tree with other names for its variables.
* `Scope.Separated`: no alias is bound, and aliases stand for plain names.
* `stable_separated`: an evaluation keeps this.
* `aliases_transparent`: a tree and the tree with names in place of aliases.
-/

namespace TokenFormula

open Outcome

/-! ## Renaming -/

namespace Expr

/-- The text with another part before its first dot. -/
def renamedHead (ρ : String → String) (dotted : String) : String :=
  let cs := dotted.toList
  ρ (String.ofList (cs.takeWhile (· ≠ '.'))) ++ String.ofList (cs.dropWhile (· ≠ '.'))

/-- A name of a variable, if it is a text. -/
def renamedName (ρ : String → String) : Value → Value
  | .text name => .text (ρ name)
  | name => name

/-- A name of a call, if it is a text. -/
def renamedCallee (ρ : String → String) : Value → Value
  | .text dotted => .text (renamedHead ρ dotted)
  | name => name

mutual

/-- The tree with other names for its variables: those that it reads, those that
    it assigns, and the first parts of the names that it calls. -/
def renamed (ρ : String → String) : Expr → Expr
  | absent => absent
  | binary op l r note => binary op (l.renamed ρ) (r.renamed ρ) note
  | unary op e note => unary op (e.renamed ρ) note
  | var name note => var (renamedName ρ name) note
  | literal v fallback note => literal v fallback note
  | call name args note => call (renamedCallee ρ name) (renamedArguments ρ args) note
  | assign name e note => assign (renamedName ρ name) (e.renamed ρ) note
  | group e note => group (e.renamed ρ) note

/-- The arguments with other names for their variables. -/
def renamedArguments (ρ : String → String) : List Expr → List Expr
  | [] => []
  | a :: rest => a.renamed ρ :: renamedArguments ρ rest

end

theorem renamed_isAbsent (ρ : String → String) (e : Expr) :
    (e.renamed ρ).isAbsent = e.isAbsent := by
  cases e <;> rfl

end Expr

/-! ## Aliases -/

namespace Scope

/-- The name that a key stands for: that of its alias, else the key. -/
def nameOf (s : Scope) (key : String) : String :=
  (s.aliases.get? key).getD key

/-- No alias is bound or stands for an alias. An alias is never empty, and the
    name that it stands for is neither empty nor dotted. -/
structure Separated (s : Scope) : Prop where
  unbound : ∀ k, s.aliases.has k = true → s.values.has k = false
  direct : ∀ k name, s.aliases.get? k = some name → s.aliases.has name = false
  named : ∀ k name, s.aliases.get? k = some name → name ≠ "" ∧ '.' ∉ name.toList
  nonempty : s.aliases.has "" = false

variable {s : Scope}

/-- No empty alias is ever declared. -/
theorem addAlias_nonempty (h : s.aliases.has "" = false) (k name : String) :
    (s.addAlias k name).aliases.has "" = false := by
  unfold addAlias
  split
  · exact h
  · rename_i hk
    have hk : k ≠ "" := by
      rintro rfl
      exact hk rfl
    show (s.aliases.set k name).has "" = false
    rw [Entries.has_set, h, beq_eq_false_iff_ne.mpr hk.symm]
    rfl

namespace Separated

theorem resolve_eq (h : s.Separated) (k : String) : s.resolve k = s.nameOf k := by
  unfold resolve nameOf
  split
  · rename_i hk
    cases ha : s.aliases.get? k with
    | none => rfl
    | some name =>
      have := h.unbound k (by rw [Entries.has, ha]; rfl)
      rw [hk] at this
      cases this
  · rfl

/-- A name that is stood for is no alias. -/
theorem has_nameOf (h : s.Separated) (k : String) : s.aliases.has (s.nameOf k) = false := by
  unfold nameOf
  cases ha : s.aliases.get? k with
  | none => rw [Option.getD_none, Entries.has, ha]; rfl
  | some name => exact h.direct k name ha

theorem nameOf_nameOf (h : s.Separated) (k : String) : s.nameOf (s.nameOf k) = s.nameOf k := by
  have hk := h.has_nameOf k
  rw [Entries.has, Option.isSome_eq_false_iff, Option.isNone_iff_eq_none] at hk
  rw [nameOf, hk]
  rfl

theorem get?_nameOf (h : s.Separated) (k : String) : s.get? (s.nameOf k) = s.get? k := by
  rw [get?, get?, h.resolve_eq, h.resolve_eq, h.nameOf_nameOf]

theorem set_nameOf (h : s.Separated) (k : String) (v : Value) :
    s.set (s.nameOf k) v = s.set k v := by
  rw [Scope.set, Scope.set, h.resolve_eq, h.resolve_eq, h.nameOf_nameOf]

theorem nameOf_isEmpty (h : s.Separated) (k : String) : (s.nameOf k).isEmpty = k.isEmpty := by
  unfold nameOf
  cases ha : s.aliases.get? k with
  | none => rfl
  | some name =>
    have hk : k ≠ "" := by
      rintro rfl
      have := h.nonempty
      rw [Entries.has, ha] at this
      cases this
    rw [Option.getD_some, Bool.eq_iff_iff, String.isEmpty_iff, String.isEmpty_iff]
    exact iff_of_false (h.named k name ha).1 hk

/-- A text without dots stands for one. -/
theorem nameOf_dotless (h : s.Separated) {k : String} (hk : '.' ∉ k.toList) :
    '.' ∉ (s.nameOf k).toList := by
  unfold nameOf
  cases ha : s.aliases.get? k with
  | none => exact hk
  | some name => exact (h.named k name ha).2

/-- A write binds a name that is no alias. -/
theorem set (h : s.Separated) (k : String) (v : Value) : (s.set k v).Separated where
  unbound j hj := by
    rw [has_set, h.resolve_eq, h.unbound j hj, Bool.or_false, beq_eq_false_iff_ne]
    rintro rfl
    have hn := h.has_nameOf k
    rw [show s.aliases.has (s.nameOf k) = true from hj] at hn
    cases hn
  direct := h.direct
  named := h.named
  nonempty := h.nonempty

/-- An alias that is neither bound nor stood for may be declared for a plain name
    that is no alias. -/
theorem addAlias (h : s.Separated) {k name : String} (hk : s.values.has k = false)
    (hstood : ∀ j, s.aliases.get? j ≠ some k) (hne : name ≠ k)
    (hname : s.aliases.has name = false) (hplain : name ≠ "" ∧ '.' ∉ name.toList) :
    (s.addAlias k name).Separated := by
  have hempty := addAlias_nonempty h.nonempty k name
  revert hempty
  unfold Scope.addAlias
  split
  · exact fun _ => h
  · have hget : ∀ j target, (s.aliases.set k name).get? j = some target →
        target = name ∨ s.aliases.get? j = some target := by
      intro j target hj
      rw [Entries.get?_set] at hj
      split at hj
      · exact .inl (Option.some.inj hj).symm
      · exact .inr hj
    refine fun hempty => ⟨fun j hj => ?_, fun j target hj => ?_, fun j target hj => ?_, hempty⟩
    · rw [Entries.has_set, Bool.or_eq_true, beq_iff_eq] at hj
      obtain rfl | hj := hj
      · exact hk
      · exact h.unbound j hj
    · rw [Entries.has_set, Bool.or_eq_false_iff, beq_eq_false_iff_ne]
      obtain rfl | hj := hget j target hj
      · exact ⟨hne, hname⟩
      · exact ⟨fun heq => hstood j (heq ▸ hj), h.direct j target hj⟩
    · obtain rfl | hj := hget j target hj
      · exact hplain
      · exact h.named j target hj

end Separated

/-- A scope without aliases. -/
theorem separated_ofPairs (pairs : List (String × Value)) : (ofPairs pairs).Separated where
  unbound _ h := by cases h
  direct _ _ h := by cases h
  named _ _ h := by cases h
  nonempty := rfl

end Scope

namespace Expr

/-- An evaluation binds no alias, whether it fails or not. -/
theorem stable_separated (aliases : Entries String) :
    Stable (fun _ => True) (fun _ => True) (fun s => s.Separated ∧ s.aliases = aliases) where
  literal _ _ _ := trivial
  var _ _ := trivial
  unary _ _ := trivial
  binary _ _ _ := trivial
  call _ _ _ _ := trivial
  bind {name e note} _ {s a s'} hs _ hb := by
    unfold bind at hb
    split at hb
    · rw [← Except.ok.inj hb]
      exact ⟨hs.1.set _ a, hs.2⟩
    · split at hb
      · rw [← Except.ok.inj hb]
        exact ⟨⟨hs.1.unbound, hs.1.direct, hs.1.named, hs.1.nonempty⟩, hs.2⟩
      · cases hb

end Expr

/-! ## Agreement -/

/-- Both outcomes leave the same scope, and they are the same value or two
    failures. -/
def Agrees {α : Type} (r r' : Outcome α) : Prop :=
  r'.2 = r.2 ∧ ∀ a, r'.1 = .ok a ↔ r.1 = .ok a

namespace Agrees

variable {α β : Type} {r r' : Outcome α}

theorem refl (r : Outcome α) : Agrees r r :=
  ⟨rfl, fun _ => .rfl⟩

/-- Two failures. -/
theorem errors (e e' : EvalError) (s : Scope) : Agrees (α := α) (.error e, s) (.error e', s) := by
  refine ⟨rfl, fun a => ⟨fun h => ?_, fun h => ?_⟩⟩ <;> cases h

/-- Two results that do not touch the scope. -/
theorem results {q q' : Except EvalError α} (s : Scope) (h : ∀ a, q' = .ok a ↔ q = .ok a) :
    Agrees (q, s) (q', s) :=
  ⟨rfl, h⟩

theorem andThen {k k' : α → Scope → Outcome β} (h : Agrees r r')
    (hk : ∀ a s, r = (.ok a, s) → Agrees (k a s) (k' a s)) :
    Agrees (r.andThen k) (r'.andThen k') := by
  obtain ⟨q, s⟩ := r
  obtain ⟨q', s'⟩ := r'
  obtain ⟨rfl, hq⟩ : s' = s ∧ ∀ a, q' = .ok a ↔ q = .ok a := h
  cases q with
  | ok a =>
    obtain rfl := (hq a).mpr rfl
    exact hk a s' rfl
  | error e =>
    cases q' with
    | ok a => cases (hq a).mp rfl
    | error e' => exact errors e e' s'

end Agrees

namespace Expr

variable {s : Scope}

theorem renamedName_isTruthy (h : s.Separated) (name : Value) :
    (renamedName s.nameOf name).isTruthy = name.isTruthy := by
  cases name with
  | text key =>
    show (!(s.nameOf key).isEmpty) = !key.isEmpty
    rw [h.nameOf_isEmpty]
  | _ => rfl

/-- A variable is read under its name as under its alias. -/
theorem variableValue_renamed (h : s.Separated) (name a : Value) :
    variableValue s (renamedName s.nameOf name) = .ok a ↔ variableValue s name = .ok a := by
  unfold variableValue
  rw [renamedName_isTruthy h]
  cases name with
  | text key =>
    simp only [renamedName, h.get?_nameOf]
    split
    · exact .rfl
    · split
      · exact .rfl
      · constructor <;> intro he <;> cases he
  | _ => exact .rfl

/-- An assignment binds a name as its alias. -/
theorem bind_renamed (h : s.Separated) (name v : Value) :
    bind (renamedName s.nameOf name) v s = bind name v s := by
  cases name with
  | text key =>
    show Except.ok (s.set (s.nameOf key) v) = Except.ok (s.set key v)
    rw [h.set_nameOf]
  | _ => rfl

/-! ## Calls -/

theorem splitAt_renamedHead (h : s.Separated) (dotted : String) :
    ∃ head members, Text.splitAt '.' dotted = head :: members ∧
      Text.splitAt '.' (renamedHead s.nameOf dotted) = s.nameOf head :: members := by
  let cs := dotted.toList
  have hhead : '.' ∉ (String.ofList (cs.takeWhile (· ≠ '.'))).toList := by
    rw [String.toList_ofList]
    intro hm
    have := List.all_takeWhile (p := fun c : Char => decide (c ≠ '.')) (l := cs)
    simpa using List.all_eq_true.mp this '.' hm
  have hparts := Text.splitList_append (h.nameOf_dotless hhead) (Text.splitList_dropWhile cs)
  refine ⟨String.ofList (cs.takeWhile (· ≠ '.')),
    (Text.splitList '.' cs).tail.map String.ofList, ?_, ?_⟩
  · show (Text.splitList '.' cs).map String.ofList = _
    rw [Text.splitList_eq, List.map_cons]
    rfl
  · unfold Text.splitAt renamedHead
    rw [String.toList_append, String.toList_ofList, hparts, List.map_cons, String.ofList_toList]

/-- The same is found under a dotted name. -/
theorem target_renamed (h : s.Separated) (dotted : String) (f : Value) :
    target s (renamedHead s.nameOf dotted) = .ok f ↔ target s dotted = .ok f := by
  obtain ⟨head, members, hd, hr⟩ := splitAt_renamedHead h dotted
  unfold target
  simp only [hd, hr, h.get?_nameOf]
  split
  · constructor <;> intro he <;> cases he
  · split
    · exact .rfl
    · constructor <;> intro he <;> cases he

theorem isEmpty_append (s t : String) : (s ++ t).isEmpty = (s.isEmpty && t.isEmpty) := by
  rw [Bool.eq_iff_iff, Bool.and_eq_true, String.isEmpty_iff, String.isEmpty_iff,
    String.isEmpty_iff, String.append_eq_empty_iff]

theorem renamedHead_isEmpty (h : s.Separated) (dotted : String) :
    (renamedHead s.nameOf dotted).isEmpty = dotted.isEmpty := by
  let head := String.ofList (dotted.toList.takeWhile (· ≠ '.'))
  let tail := String.ofList (dotted.toList.dropWhile (· ≠ '.'))
  have hd : head ++ tail = dotted := by
    rw [← String.ofList_append, List.takeWhile_append_dropWhile, String.ofList_toList]
  calc (s.nameOf head ++ tail).isEmpty = ((s.nameOf head).isEmpty && tail.isEmpty) :=
        isEmpty_append ..
    _ = (head.isEmpty && tail.isEmpty) := by rw [h.nameOf_isEmpty]
    _ = (head ++ tail).isEmpty := (isEmpty_append ..).symm
    _ = dotted.isEmpty := by rw [hd]

theorem calleeName_renamed (h : s.Separated) (name : Value) :
    calleeName (renamedCallee s.nameOf name) = (calleeName name).map (renamedHead s.nameOf) := by
  cases name with
  | text dotted =>
    have ht : (Value.text (renamedHead s.nameOf dotted)).isTruthy =
        (Value.text dotted).isTruthy := by
      show (!(renamedHead s.nameOf dotted).isEmpty) = !dotted.isEmpty
      rw [renamedHead_isEmpty h]
    unfold calleeName renamedCallee
    rw [ht]
    split <;> rfl
  | null | bool | num | list | dict | function =>
    simp only [renamedCallee, calleeName, apply_ite (Except.map _)]
    rfl

/-- A call gives the same value under another name. -/
theorem callValue_renamed (dotted dotted' : String) (f a : Value) (args : List Value) :
    callValue dotted' f args = .ok a ↔ callValue dotted f args = .ok a := by
  unfold callValue
  split
  · split
    · exact .rfl
    · constructor <;> intro he <;> cases he
  · split
    · exact .rfl
    · constructor <;> intro he <;> cases he

/-! ## Trees -/

/-- After an evaluation the same keys are aliases, and none of them is bound. -/
theorem separated_evaluate (h : s.Separated) (e : Expr) :
    (e.evaluate s).2.Separated ∧ (e.evaluate s).2.aliases = s.aliases :=
  ((stable_separated s.aliases).evaluate e (every_of_forall (fun _ => trivial) e) s ⟨h, rfl⟩).1

theorem nameOf_eq {s' : Scope} (h : s'.aliases = s.aliases) : s'.nameOf = s.nameOf := by
  funext k
  rw [Scope.nameOf, Scope.nameOf, h]

mutual

/-- A tree agrees with the tree in which names stand in place of aliases. -/
theorem renamed_agrees : (e : Expr) → ∀ {s : Scope}, s.Separated →
    Agrees (e.evaluate s) ((e.renamed s.nameOf).evaluate s)
  | absent, s, _ | literal .., s, _ => .refl _
  | var name note, s, h => by
    rw [renamed, evaluate_var, evaluate_var]
    exact .results s fun a => variableValue_renamed h name a
  | group e note, s, h => by
    rw [renamed, evaluate_group, evaluate_group]
    exact renamed_agrees e h
  | unary op e note, s, h => by
    have ha := renamed_isAbsent s.nameOf e
    rw [renamed]
    cases hc : e.isAbsent || !op.isTruthy with
    | true =>
      rw [evaluate_unary_incomplete note s hc,
        evaluate_unary_incomplete note s (by rw [ha]; exact hc)]
      exact .refl _
    | false =>
      rw [evaluate_unary note s hc, evaluate_unary note s (by rw [ha]; exact hc)]
      exact (renamed_agrees e h).andThen fun _ _ _ => .refl _
  | binary op l r note, s, h => by
    have hal := renamed_isAbsent s.nameOf l
    have har := renamed_isAbsent s.nameOf r
    rw [renamed]
    cases hc : l.isAbsent || r.isAbsent || !op.isTruthy with
    | true =>
      rw [evaluate_binary_incomplete note s hc,
        evaluate_binary_incomplete note s (by rw [hal, har]; exact hc)]
      exact .refl _
    | false =>
      cases ho : operatorOf op with
      | error e =>
        rw [evaluate_binary_unknown note s hc ho,
          evaluate_binary_unknown note s (by rw [hal, har]; exact hc) ho]
        exact .refl _
      | ok o =>
        rw [evaluate_binary note s hc ho,
          evaluate_binary note s (by rw [hal, har]; exact hc) ho]
        refine (renamed_agrees l h).andThen fun a s₁ hl => ?_
        obtain ⟨h₁, ha₁⟩ := separated_evaluate h l
        rw [hl] at h₁ ha₁
        split
        · exact .refl _
        · rw [← nameOf_eq ha₁]
          exact (renamed_agrees r h₁).andThen fun _ _ _ => .refl _
  | assign name e note, s, h => by
    rw [renamed]
    cases hn : name.isTruthy with
    | false =>
      rw [evaluate_assign_unnamed e note s hn,
        evaluate_assign_unnamed _ note s ((renamedName_isTruthy h name).trans hn)]
      exact .refl _
    | true =>
      rw [evaluate_assign e note s hn,
        evaluate_assign _ note s ((renamedName_isTruthy h name).trans hn)]
      refine (renamed_agrees e h).andThen fun v s₁ he => ?_
      obtain ⟨h₁, ha₁⟩ := separated_evaluate h e
      rw [he] at h₁ ha₁
      rw [← nameOf_eq ha₁, bind_renamed h₁]
      exact .refl _
  | call name args note, s, h => by
    rw [renamed, evaluate_call, evaluate_call, calleeName_renamed h]
    cases calleeName name with
    | error e => exact .refl _
    | ok dotted =>
      show Agrees (andThen (target s dotted, s) _)
        (andThen (target s (renamedHead s.nameOf dotted), s) _)
      refine Agrees.andThen (.results s fun f => target_renamed h dotted f) fun f s₁ hf => ?_
      obtain rfl := congrArg Prod.snd hf
      refine (renamedArguments_agrees args h).andThen fun vs s₂ _ => ?_
      exact .results s₂ fun a => callValue_renamed dotted (renamedHead s.nameOf dotted) f a vs

theorem renamedArguments_agrees : (args : List Expr) → ∀ {s : Scope}, s.Separated →
    Agrees (evaluateArguments args s) (evaluateArguments (renamedArguments s.nameOf args) s)
  | [], s, _ => .refl _
  | a :: rest, s, h => by
    rw [renamedArguments, evaluateArguments_cons, evaluateArguments_cons]
    refine (renamed_agrees a h).andThen fun v s₁ ha => ?_
    obtain ⟨h₁, ha₁⟩ := separated_evaluate h a
    rw [ha] at h₁ ha₁
    rw [← nameOf_eq ha₁]
    exact (renamedArguments_agrees rest h₁).andThen fun _ _ _ => .refl _

end

/-- Aliases are transparent: with names in place of aliases a tree gives the same
    value, or fails where it failed, and leaves the same scope. In this scope
    again no alias is bound. -/
theorem aliases_transparent (h : s.Separated) (e : Expr) :
    Agrees (e.evaluate s) ((e.renamed s.nameOf).evaluate s) ∧ (e.evaluate s).2.Separated :=
  ⟨renamed_agrees e h, (separated_evaluate h e).1⟩

/-- The variable `width` with the alias `v1`. -/
def aliasedWidth : Scope :=
  (Scope.ofPairs (("width", .num (.int 3)) :: tables)).addAlias "v1" "width"

/-- The tree `v1 = Math.max(v1, 5)`. -/
def widened : Expr :=
  assign (.text "v1") (call (.text "Math.max")
    [var (.text "v1") none, literal (some (.num (.int 5))) false none] none) none

/-- The tree that reads and assigns the alias is the tree that reads and assigns
    the variable. -/
theorem aliases_transparent_widened :
    aliasedWidth.Separated ∧
      widened.renamed aliasedWidth.nameOf = assign (.text "width") (call (.text "Math.max")
        [var (.text "width") none, literal (some (.num (.int 5))) false none] none) none ∧
      Agrees (widened.evaluate aliasedWidth)
        ((widened.renamed aliasedWidth.nameOf).evaluate aliasedWidth) ∧
      (widened.evaluate aliasedWidth).2.get? "width" = some (.num (.int 5)) := by
  have h : aliasedWidth.Separated :=
    (Scope.separated_ofPairs _).addAlias (by decide) (fun _ => nofun) (by decide) rfl (by decide)
  exact ⟨h, rfl, (aliases_transparent h widened).1, rfl⟩

end Expr
end TokenFormula
