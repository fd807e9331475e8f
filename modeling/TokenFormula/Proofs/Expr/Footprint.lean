import TokenFormula.Proofs.Expr.Outcome
import TokenFormula.Proofs.Scope

/-!
# The footprint of an evaluation

A tree reads the scope under the names of its variables and the first parts of
the names that it calls, and writes it under the targets of its assignments.
Which binding a name reaches depends on what is bound, and that changes while
the tree is evaluated, but in the same way in two scopes that bind the same
names. So these may differ in every value that the tree does not name.

Results:
* `Expr.reads`, `Expr.assigned`: the names under which a tree reads and writes.
* `Scope.Alike`: scopes that a tree with these reads cannot tell apart.
* `Scope.Write`, `Write.Hits`: one write, and the targets that may be behind it.
* `Scope.Agree`: scopes that read the same at names.
* `evaluate_agree`: an evaluation in scopes that agree at its reads.
* `evaluate_footprint`: the same outcome, the same writes, and all else is left.
-/

namespace TokenFormula

/-! ## Names in trees -/

namespace Expr

/-- The key at which the look-up of a dotted name starts. -/
def headOf (dotted : String) : String :=
  (Text.splitAt '.' dotted).headD dotted

mutual

/-- The names under which a tree reads: those of its variables and the first
    parts of those that it calls. -/
def reads : Expr → List String
  | absent | literal .. => []
  | var (.text name) _ => [name]
  | var _ _ => []
  | binary _ l r _ => l.reads ++ r.reads
  | unary _ e _ | assign _ e _ | group e _ => e.reads
  | call (.text dotted) args _ => headOf dotted :: argumentReads args
  | call _ args _ => argumentReads args

/-- The names under which arguments read. -/
def argumentReads : List Expr → List String
  | [] => []
  | a :: rest => a.reads ++ argumentReads rest

end

mutual

/-- The names that the assignments of a tree write to. -/
def assigned : Expr → List Value
  | absent | literal .. | var .. => []
  | binary _ l r _ => l.assigned ++ r.assigned
  | unary _ e _ | group e _ => e.assigned
  | assign name e _ => name :: e.assigned
  | call _ args _ => argumentAssigned args

/-- The names that the assignments of arguments write to. -/
def argumentAssigned : List Expr → List Value
  | [] => []
  | a :: rest => a.assigned ++ argumentAssigned rest

end

end Expr

/-! ## Writes -/

namespace Scope

/-- What an assignment does to a scope: it binds a name, or a value that is no
    text. -/
inductive Write where
  | named (name : String) (value : Value)
  | unnamed (key value : Value)

/-- The scope after a write. -/
def write (s : Scope) : Write → Scope
  | .named name v => { s with values := s.values.set name v }
  | .unnamed key v => s.setUnnamed key v

/-- The scope after several writes. -/
def writes (s : Scope) (ws : List Write) : Scope :=
  ws.foldl write s

/-- The write comes from one of the targets: from the name, or from an alias of
    it. -/
def Write.Hits (aliases : Entries String) (targets : List Value) : Write → Prop
  | named name _ => ∃ key, .text key ∈ targets ∧ (key = name ∨ aliases.get? key = some name)
  | unnamed key _ => key ∈ targets

/-- What is bound under none of the targets, nor behind one that is an alias, is
    the same in the second scope. -/
def KeepsOthers (targets : List Value) (s t : Scope) : Prop :=
  (∀ name, (∀ key, .text key ∈ targets → key ≠ name ∧ s.aliases.get? key ≠ some name) →
    t.values.get? name = s.values.get? name) ∧
  ∀ p ∈ s.unnamed, (∀ key ∈ targets, p.1.identical key = false) → p ∈ t.unnamed

variable {s s' t : Scope} {ws : List Write} {ts ts' : List Value}

theorem writes_append (s : Scope) (ws ws' : List Write) :
    s.writes (ws ++ ws') = (s.writes ws).writes ws' :=
  List.foldl_append

@[simp] theorem aliases_write (s : Scope) (w : Write) : (s.write w).aliases = s.aliases := by
  cases w <;> rfl

@[simp] theorem aliases_writes (s : Scope) (ws : List Write) :
    (s.writes ws).aliases = s.aliases := by
  induction ws generalizing s with
  | nil => rfl
  | cons w rest ih => exact (ih (s.write w)).trans (aliases_write s w)

theorem Write.Hits.mono {w : Write} {aliases : Entries String} (h : w.Hits aliases ts)
    (hsub : ∀ key ∈ ts, key ∈ ts') : w.Hits aliases ts' := by
  cases w with
  | named name v =>
    obtain ⟨key, hkey, hname⟩ := h
    exact ⟨key, hsub _ hkey, hname⟩
  | unnamed key v => exact hsub _ h

/-- Only what the aliases stand for counts. -/
theorem Write.Hits.congr {w : Write} {aliases aliases' : Entries String} (h : w.Hits aliases ts)
    (ha : ∀ key, aliases'.get? key = aliases.get? key) : w.Hits aliases' ts := by
  cases w with
  | named name v =>
    obtain ⟨key, hkey, hname⟩ := h
    exact ⟨key, hkey, hname.imp_right (ha key).trans⟩
  | unnamed key v => exact h

/-- The name that a write at a key reaches is the key, or what it is an alias of. -/
theorem resolve_eq_or (s : Scope) (key : String) :
    key = s.resolve key ∨ s.aliases.get? key = some (s.resolve key) := by
  unfold resolve
  split
  · exact .inl rfl
  · cases h : s.aliases.get? key with
    | none => exact .inl rfl
    | some name => exact .inr rfl

theorem keepsOthers_write {w : Write} (h : w.Hits s.aliases ts) : KeepsOthers ts s (s.write w) := by
  cases w with
  | named name v =>
    obtain ⟨key, hkey, hname⟩ := h
    refine ⟨fun other hother => Entries.get?_set_of_ne ?_ v s.values, fun p hp _ => hp⟩
    rintro rfl
    obtain ⟨hne, halias⟩ := hother key hkey
    exact hname.elim hne halias
  | unnamed key v => exact ⟨fun _ _ => rfl, fun p hp hother => mem_writeUnnamed hp (hother key h)⟩

/-- Writes from the targets leave all else. -/
theorem keepsOthers_writes (h : ∀ w ∈ ws, w.Hits s.aliases ts) :
    KeepsOthers ts s (s.writes ws) := by
  induction ws generalizing s with
  | nil => exact ⟨fun _ _ => rfl, fun _ hp _ => hp⟩
  | cons w rest ih =>
    rw [List.forall_mem_cons] at h
    have hfirst := keepsOthers_write h.1
    have hrest := ih (s := s.write w) (by rw [aliases_write]; exact h.2)
    refine ⟨fun name hname => ?_, fun p hp hother => ?_⟩
    · exact (hrest.1 name (by rwa [aliases_write])).trans (hfirst.1 name hname)
    · exact hrest.2 p (hfirst.2 p hp hother) hother

/-! ## Scopes that are alike -/

/-- The scopes have the same aliases, bind the same names, and hold the same
    values at these names and at those that they are aliases of. -/
structure Alike (names : List String) (s s' : Scope) : Prop where
  aliases : ∀ key, s'.aliases.get? key = s.aliases.get? key
  bound : ∀ key, s'.values.has key = s.values.has key
  value : ∀ name ∈ names, s'.values.get? name = s.values.get? name
  aliasValue : ∀ name ∈ names, ∀ other, s.aliases.get? name = some other →
    s'.values.get? other = s.values.get? other

/-- The scopes have the same aliases, bind the same names, and read the same at
    the keys with `K`. -/
structure Agree (K : String → Prop) (s s' : Scope) : Prop where
  aliases : ∀ key, s'.aliases.get? key = s.aliases.get? key
  bound : ∀ key, s'.values.has key = s.values.has key
  reads : ∀ key, K key → s'.get? key = s.get? key

theorem resolve_write_named (s : Scope) (name key : String) (v : Value) :
    (s.write (.named name v)).resolve key = if key = name then key else s.resolve key := by
  have hhas : (s.write (.named name v)).values.has key = (key == name || s.values.has key) :=
    Entries.has_set ..
  rw [resolve, hhas, aliases_write]
  by_cases h : key = name
  · simp [h]
  · rw [if_neg h, beq_eq_false_iff_ne.mpr h, Bool.false_or, resolve]

namespace Agree

variable {K : String → Prop}

theorem resolve_eq (h : Agree K s s') (key : String) : s'.resolve key = s.resolve key := by
  rw [resolve, resolve, h.bound, h.aliases]

theorem write (h : Agree K s s') (w : Write) : Agree K (s.write w) (s'.write w) := by
  cases w with
  | unnamed key v => exact ⟨h.aliases, h.bound, h.reads⟩
  | named name v =>
    refine ⟨h.aliases, fun key => ?_, fun key hkey => ?_⟩
    · show (s'.values.set name v).has key = (s.values.set name v).has key
      rw [Entries.has_set, Entries.has_set, h.bound]
    · -- Either the write is what is read, or the look-up is the one before the write.
      have hread := h.reads key hkey
      rw [get?, get?, h.resolve_eq] at hread
      rw [get?, get?, resolve_write_named, resolve_write_named, h.resolve_eq]
      show (s'.values.set name v).get? _ = (s.values.set name v).get? _
      rw [Entries.get?_set, Entries.get?_set]
      split
      · rfl
      · rw [hread]

theorem writes (h : Agree K s s') (ws : List Write) :
    Agree K (s.writes ws) (s'.writes ws) := by
  induction ws generalizing s s' with
  | nil => exact h
  | cons w rest ih => exact ih (h.write w)

theorem mono {K' : String → Prop} (h : Agree K s s') (hsub : ∀ key, K' key → K key) :
    Agree K' s s' :=
  ⟨h.aliases, h.bound, fun key hkey => h.reads key (hsub key hkey)⟩

/-- The same write at a key makes the scopes agree at it. -/
theorem set (h : Agree K s s') (key : String) (v : Value) :
    Agree (fun k => k = key ∨ K k) (s.set key v) (s'.set key v) := by
  have hwrite : Agree K (s.set key v) (s'.set key v) := by
    have hset : s'.set key v = s'.write (.named (s.resolve key) v) := by
      rw [Scope.set, h.resolve_eq]
      rfl
    rw [hset]
    exact h.write (.named (s.resolve key) v)
  refine ⟨hwrite.aliases, hwrite.bound, fun k hk => ?_⟩
  rcases hk with rfl | hk
  · rw [get?_set_key, get?_set_key]
  · exact hwrite.reads k hk

theorem setAll (h : Agree K s s') (pairs : List (String × Value)) :
    Agree (fun k => k ∈ Entries.keys pairs ∨ K k) (s.setAll pairs) (s'.setAll pairs) := by
  induction pairs generalizing K s s' with
  | nil => exact h.mono fun k hk => hk.resolve_left List.not_mem_nil
  | cons p rest ih =>
    refine (ih (h.set p.1 p.2)).mono fun k hk => ?_
    rcases hk with hk | hk
    · exact (List.mem_cons.mp hk).elim (fun he => .inr (.inl he)) .inl
    · exact .inr (.inr hk)

end Agree

/-- Scopes that are alike at names read the same at them. -/
theorem Alike.agree {names : List String} (h : Alike names s s') : Agree (· ∈ names) s s' := by
  refine ⟨h.aliases, h.bound, fun key hkey => ?_⟩
  have hresolve : s'.resolve key = s.resolve key := by rw [resolve, resolve, h.bound, h.aliases]
  rw [get?, get?, hresolve]
  rcases s.resolve_eq_or key with hr | hr
  · rw [← hr]
    exact h.value key hkey
  · exact h.aliasValue key hkey _ hr

end Scope

/-! ## Outcomes -/

open Scope

/-- Two outcomes with the same result, reached from the two scopes by the same
    writes, which come from the targets. -/
def SameWrites {α : Type} (ts : List Value) (s s' : Scope) (r r' : Outcome α) : Prop :=
  r'.1 = r.1 ∧ ∃ ws, (∀ w ∈ ws, Write.Hits s.aliases ts w) ∧ r.2 = s.writes ws ∧
    r'.2 = s'.writes ws

namespace SameWrites

variable {α β : Type} {K : String → Prop} {ts ts' : List Value} {s s' : Scope}
  {r r' : Outcome α}

/-- Two equal results that do not touch the scopes. -/
theorem of_eq {q q' : Except EvalError α} (h : q' = q) : SameWrites ts s s' (q, s) (q', s') :=
  ⟨h, [], nofun, rfl, rfl⟩

theorem mono (h : SameWrites ts s s' r r') (hsub : ∀ key ∈ ts, key ∈ ts') :
    SameWrites ts' s s' r r' := by
  obtain ⟨hr, ws, hws, hs⟩ := h
  exact ⟨hr, ws, fun w hw => (hws w hw).mono hsub, hs⟩

/-- Going on in the same way, in scopes that still agree. -/
theorem andThen {k k' : α → Scope → Outcome β} (hs : Agree K s s')
    (h : SameWrites ts s s' r r')
    (hk : ∀ a t t', Agree K t t' → SameWrites ts t t' (k a t) (k' a t')) :
    SameWrites ts s s' (r.andThen k) (r'.andThen k') := by
  obtain ⟨q, t⟩ := r
  obtain ⟨q', t'⟩ := r'
  obtain ⟨hq, ws, hws, ht, ht'⟩ := h
  dsimp only at hq ht ht'
  subst hq ht ht'
  cases q' with
  | error e => exact ⟨rfl, ws, hws, rfl, rfl⟩
  | ok a =>
    obtain ⟨hr, more, hmore, hm, hm'⟩ := hk a _ _ (hs.writes ws)
    rw [aliases_writes] at hmore
    refine ⟨hr, ws ++ more, ?_, ?_, ?_⟩
    · exact List.forall_mem_append.mpr ⟨hws, hmore⟩
    · rw [writes_append]
      exact hm
    · rw [writes_append]
      exact hm'

end SameWrites

namespace Expr

open Outcome

variable {K : String → Prop} {s s' : Scope}

/-! ## Look-ups -/

theorem variableValue_agree (h : Agree K s s') {name : Value}
    (hname : ∀ key, name = .text key → K key) :
    variableValue s' name = variableValue s name := by
  unfold variableValue
  cases name with
  | text key =>
    dsimp only
    rw [h.reads key (hname key rfl)]
  | _ => rfl

theorem target_agree (h : Agree K s s') {dotted : String} (hhead : K (headOf dotted)) :
    target s' dotted = target s dotted := by
  unfold headOf at hhead
  unfold target
  cases hs : Text.splitAt '.' dotted with
  | nil => rfl
  | cons head members =>
    rw [hs, List.headD_cons] at hhead
    dsimp only
    rw [h.reads head hhead]

/-- The name that a call looks up is the one that it has as a text. -/
theorem eq_text_of_calleeName {name : Value} {dotted : String}
    (h : calleeName name = .ok dotted) : name = .text dotted := by
  unfold calleeName at h
  split at h
  · cases h
  · cases name with
    | text s =>
      obtain rfl := Except.ok.inj h
      rfl
    | _ => cases h

/-- The outcome of binding the target of an assignment. -/
def boundOutcome (name v : Value) (s : Scope) : Outcome Value :=
  match bind name v s with
  | .ok t => (.ok v, t)
  | .error err => (.error err, s)

/-- An assignment writes the same in both scopes. -/
theorem boundOutcome_agree (h : Agree K s s') (name v : Value) :
    SameWrites [name] s s' (boundOutcome name v s) (boundOutcome name v s') := by
  unfold boundOutcome bind
  cases name with
  | text key =>
    refine ⟨rfl, [.named (s.resolve key) v], ?_, rfl, ?_⟩
    · rw [List.forall_mem_singleton]
      exact ⟨key, List.mem_singleton_self _, s.resolve_eq_or key⟩
    · show s'.set key v = _
      rw [Scope.set, h.resolve_eq]
      rfl
  | null | bool | num | function =>
    refine ⟨rfl, [.unnamed _ v], ?_, rfl, rfl⟩
    rw [List.forall_mem_singleton]
    exact List.mem_singleton_self _
  | list | dict => exact .of_eq rfl

/-! ## Trees -/

mutual

/-- In scopes that agree at its reads a tree has the same result and the same
    writes. -/
theorem evaluate_agree : (e : Expr) → (∀ key ∈ e.reads, K key) → ∀ {s s' : Scope},
    Agree K s s' → SameWrites e.assigned s s' (e.evaluate s) (e.evaluate s')
  | absent, _, s, s', h => by
    rw [evaluate_absent, evaluate_absent]
    exact .of_eq rfl
  | literal v fallback note, _, s, s', h => by
    rw [evaluate_literal, evaluate_literal]
    exact .of_eq rfl
  | var name note, hn, s, s', h => by
    rw [evaluate_var, evaluate_var]
    refine .of_eq (variableValue_agree h fun key hkey => hn key ?_)
    subst hkey
    exact List.mem_singleton_self key
  | group body note, hn, s, s', h => by
    rw [evaluate_group, evaluate_group]
    exact evaluate_agree body hn h
  | unary op e note, hn, s, s', h => by
    cases hc : e.isAbsent || !op.isTruthy with
    | true =>
      rw [evaluate_unary_incomplete note s hc, evaluate_unary_incomplete note s' hc]
      exact .of_eq rfl
    | false =>
      rw [evaluate_unary note s hc, evaluate_unary note s' hc]
      exact (evaluate_agree e hn h).andThen h fun _ _ _ _ => .of_eq rfl
  | binary op l r note, hn, s, s', h => by
    have hl := fun key hkey => hn key (List.mem_append_left _ hkey)
    have hr := fun key hkey => hn key (List.mem_append_right _ hkey)
    cases hc : l.isAbsent || r.isAbsent || !op.isTruthy with
    | true =>
      rw [evaluate_binary_incomplete note s hc, evaluate_binary_incomplete note s' hc]
      exact .of_eq rfl
    | false =>
      cases ho : operatorOf op with
      | error e =>
        rw [evaluate_binary_unknown note s hc ho, evaluate_binary_unknown note s' hc ho]
        exact .of_eq rfl
      | ok o =>
        rw [evaluate_binary note s hc ho, evaluate_binary note s' hc ho]
        have hleft := (evaluate_agree l hl h).mono fun _ => List.mem_append_left r.assigned
        refine hleft.andThen h fun a t t' ht => ?_
        -- Whether the second operand is evaluated depends on the first value only.
        split
        · exact .of_eq rfl
        · have hright := (evaluate_agree r hr ht).mono fun _ => List.mem_append_right l.assigned
          exact hright.andThen ht fun _ _ _ _ => .of_eq rfl
  | assign name e note, hn, s, s', h => by
    cases ht : name.isTruthy with
    | false =>
      rw [evaluate_assign_unnamed e note s ht, evaluate_assign_unnamed e note s' ht]
      exact .of_eq rfl
    | true =>
      rw [evaluate_assign e note s ht, evaluate_assign e note s' ht]
      have hvalue := (evaluate_agree e hn h).mono fun _ => List.mem_cons_of_mem name
      refine hvalue.andThen h fun v t t' ht => (boundOutcome_agree ht name v).mono ?_
      rw [List.forall_mem_singleton]
      exact List.mem_cons_self
  | call name args note, hn, s, s', h => by
    rw [evaluate_call, evaluate_call]
    cases hc : calleeName name with
    | error e => exact .of_eq rfl
    | ok dotted =>
      obtain rfl := eq_text_of_calleeName hc
      obtain ⟨hhead, hargs⟩ := List.forall_mem_cons.mp hn
      rw [andThen_ok, andThen_ok]
      refine SameWrites.andThen h (.of_eq (target_agree h hhead)) fun f t t' ht => ?_
      exact (evaluateArguments_agree args hargs ht).andThen ht fun _ _ _ _ => .of_eq rfl

/-- The same for arguments. -/
theorem evaluateArguments_agree : (args : List Expr) →
    (∀ key ∈ argumentReads args, K key) → ∀ {s s' : Scope}, Agree K s s' →
    SameWrites (argumentAssigned args) s s' (evaluateArguments args s) (evaluateArguments args s')
  | [], _, s, s', h => by
    rw [evaluateArguments_nil, evaluateArguments_nil]
    exact .of_eq rfl
  | a :: rest, hn, s, s', h => by
    rw [evaluateArguments_cons, evaluateArguments_cons]
    have ha := (evaluate_agree a (fun key hkey => hn key (List.mem_append_left _ hkey)) h).mono
      fun _ => List.mem_append_left (argumentAssigned rest)
    refine ha.andThen h fun v t t' ht => ?_
    have hrest := (evaluateArguments_agree rest
      (fun key hkey => hn key (List.mem_append_right _ hkey)) ht).mono
      fun _ => List.mem_append_right a.assigned
    exact hrest.andThen ht fun _ _ _ _ => .of_eq rfl

end

/-- So in scopes that are alike at its reads. -/
theorem evaluate_alike {names : List String} (e : Expr) (hn : ∀ key ∈ e.reads, key ∈ names)
    (h : Alike names s s') :
    SameWrites e.assigned s s' (e.evaluate s) (e.evaluate s') :=
  evaluate_agree e hn h.agree

/-- Evaluated in scopes that are alike at its reads, a tree has the same value or
    the same error and makes the same writes, all of them from its targets. In
    each of the scopes everything else is left, whether the evaluation fails or
    not. -/
theorem evaluate_footprint (e : Expr) {s s' : Scope} (h : Alike e.reads s s') :
    (e.evaluate s').1 = (e.evaluate s).1 ∧
      (∃ ws, (∀ w ∈ ws, Write.Hits s.aliases e.assigned w) ∧
        (e.evaluate s).2 = s.writes ws ∧ (e.evaluate s').2 = s'.writes ws) ∧
      KeepsOthers e.assigned s (e.evaluate s).2 ∧ KeepsOthers e.assigned s' (e.evaluate s').2 := by
  obtain ⟨hresult, ws, hws, hs, hs'⟩ := evaluate_alike e (fun _ => id) h
  have hws' : ∀ w ∈ ws, Write.Hits s'.aliases e.assigned w := fun w hw =>
    (hws w hw).congr h.aliases
  refine ⟨hresult, ⟨ws, hws, hs, hs'⟩, ?_, ?_⟩
  · rw [hs]
    exact keepsOthers_writes hws
  · rw [hs']
    exact keepsOthers_writes hws'

/-- The variable `width` with the alias `v1`, and a variable `depth`. -/
def widthAndDepth (depth : Int) : Scope :=
  (Scope.ofPairs (("width", .num (.int 3)) :: ("depth", .num (.int depth)) :: tables)).addAlias
    "v1" "width"

/-- The tree `(v1 = Math.abs(width)) + null`. -/
def assignedWidth : Expr :=
  binary (.text "+")
    (group (assign (.text "v1") (call (.text "Math.abs") [var (.text "width") none] none) none)
      none)
    (literal (some .null) false none) none

/-- The tree fails after it has assigned the alias; it does not name `depth`. -/
theorem evaluate_footprint_depth :
    Alike assignedWidth.reads (widthAndDepth 1) (widthAndDepth 2) ∧
      (assignedWidth.evaluate (widthAndDepth 2)).1 =
        (assignedWidth.evaluate (widthAndDepth 1)).1 ∧
      (assignedWidth.evaluate (widthAndDepth 1)).1 =
        .error (.expectsNumbers "+" "null") ∧
      (assignedWidth.evaluate (widthAndDepth 2)).2.values.get? "depth" = some (.num (.int 2)) := by
  have hreads : assignedWidth.reads = ["Math", "width"] := rfl
  have hvalues (d : Int) : (widthAndDepth d).values =
      ("width", .num (.int 3)) :: ("depth", .num (.int d)) :: tables := rfl
  have h : Alike assignedWidth.reads (widthAndDepth 1) (widthAndDepth 2) := by
    rw [hreads]
    refine ⟨fun _ => rfl, fun key => ?_, fun name hname => ?_, fun name hname other ho => ?_⟩
    · rw [hvalues, hvalues]
      simp only [Entries.has, Entries.get?_cons, apply_ite Option.isSome, Option.isSome_some]
    · rw [List.mem_cons, List.mem_singleton] at hname
      obtain rfl | rfl := hname <;> rfl
    · rw [List.mem_cons, List.mem_singleton] at hname
      obtain rfl | rfl := hname <;> cases ho
  obtain ⟨hresult, -, -, hleft, -⟩ := evaluate_footprint assignedWidth h
  refine ⟨h, hresult, rfl, hleft "depth" fun key hkey => ?_⟩
  obtain rfl := Value.text.inj (List.mem_singleton.mp hkey)
  exact ⟨by decide, by decide⟩

end Expr
end TokenFormula
