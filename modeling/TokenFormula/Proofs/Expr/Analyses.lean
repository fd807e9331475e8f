import TokenFormula.Proofs.Expr.Findings
import TokenFormula.Proofs.Expr.Footprint
import TokenFormula.Proofs.Expr.Settle
import TokenFormula.Proofs.Expr.Structure

/-!
# Optimization and the analyses of trees

What the optimizer makes of a tree is no worse for what is computed from a tree without
running it. The rules take nodes away and make numbers and one product, so a name at a node
was at a node before, and a node with all its parts keeps them: a missing tree stays
missing, and no other tree becomes missing.

Results:
* `NamesIn`, `every_namesIn_iff`: the names of a tree as a property of its nodes.
* `exists_variables_iff`, `mem_variables`: the variables that are extracted.
* `keptByRules_whole`: a tree with all its parts keeps them.
* `code_isFault`: the printer finds nothing missing in such a tree.
* `optimize_analyses`: score, variables, targets and validation of an optimized tree.
-/

namespace TokenFormula

/-! ## Equal values -/

namespace Number

theorem equal_self {n : Number} (h : n.isNaN = false) : n.equal n = true := by
  have hcompare : ∀ x : Double.Exact, x ≠ .nan → x.compare? x = some .eq := by
    intro x hx
    cases x with
    | nan => exact absurd rfl hx
    | infinite s => cases s <;> rfl
    | finite s a i =>
      simp only [Double.Exact.compare?, Double.compareScaled, Std.ReflCmp.compare_self]
  have hexact : n.exact ≠ .nan := by
    cases n with
    | int k => exact nofun
    | real x =>
      intro hx
      rw [isNaN, Double.isNaN, show Double.exact x = .nan from hx] at h
      cases h
  rw [equal, compare?, hcompare _ hexact]
  rfl

end Number

/-- A key equals itself. -/
theorem Value.identical_self {v : Value} (h : v.isHashable = true) : v.identical v = true := by
  cases v with
  | list | dict => cases h
  | null => rfl
  | text s => simp [identical]
  | function f => simp [identical]
  | bool b => cases b <;> rfl
  | num n =>
    show (n.equal n || (n.isNaN && n.isNaN)) = true
    cases hn : n.isNaN with
    | true => simp
    | false => rw [Number.equal_self hn, Bool.true_or]

namespace Expr

/-! ## Names -/

/-- A variable at the node has one of the names that are read, an assignment one of those
    that are written. -/
def NamesIn (read written : List Value) : Expr → Prop
  | var name _ => name.isTruthy = true → name ∈ read
  | assign name _ _ => name ∈ written
  | _ => True

section Names

variable {read written : List Value}

mutual

theorem every_namesIn_iff : (e : Expr) →
    (e.Every (NamesIn read written) ↔ e.mentions ⊆ read ∧ e.assigned ⊆ written)
  | absent | literal .. => iff_of_true trivial ⟨List.nil_subset _, List.nil_subset _⟩
  | var name _ => by
    rw [mentions, assigned, Every, NamesIn]
    split <;> simp_all
  | group e _ | unary _ e _ => (and_iff_right trivial).trans (every_namesIn_iff e)
  | assign name e _ => by
    rw [mentions, assigned, Every, NamesIn, every_namesIn_iff e, List.cons_subset]
    exact and_left_comm
  | binary _ l r _ => by
    rw [mentions, assigned, List.append_subset, List.append_subset]
    refine (and_iff_right trivial).trans ?_
    rw [every_namesIn_iff l, every_namesIn_iff r]
    exact and_and_and_comm
  | call _ args _ => (and_iff_right trivial).trans (everyArgument_namesIn_iff args)

theorem everyArgument_namesIn_iff : (args : List Expr) →
    (EveryArgument (NamesIn read written) args ↔
      argumentMentions args ⊆ read ∧ argumentAssigned args ⊆ written)
  | [] => iff_of_true trivial ⟨List.nil_subset _, List.nil_subset _⟩
  | a :: rest => by
    rw [argumentMentions, argumentAssigned, EveryArgument, every_namesIn_iff a,
      everyArgument_namesIn_iff rest, List.append_subset, List.append_subset]
    exact and_and_and_comm

end

theorem namesIn_withNote {note : Option Note} (e : Expr) :
    NamesIn read written (e.withNote note) ↔ NamesIn read written e := by
  cases e <;> exact .rfl

theorem keptBy_namesIn (R : Expr → Expr → Prop) : KeptBy R (NamesIn read written) where
  binary _ _ _ := trivial
  unary _ _ := trivial
  call _ _ := trivial
  assign h _ := h
  group _ _ := trivial

theorem keptByRules_namesIn : KeptByRules (NamesIn read written) where
  folding :=
    { children := keptBy_namesIn _
      finite := fun _ => trivial
      negated := fun _ => trivial
      truth := fun _ => trivial }
  dropping := keptBy_namesIn _
  joining := keptBy_namesIn _
  one := trivial
  two := trivial
  product _ := trivial

end Names

/-- The optimizer brings in no name. -/
theorem optimize_names (e : Expr) (maxRounds : Int) :
    (e.optimize maxRounds).mentions ⊆ e.mentions ∧
      (e.optimize maxRounds).assigned ⊆ e.assigned := by
  have he : e.Every (NamesIn e.mentions e.assigned) :=
    (every_namesIn_iff e).mpr ⟨List.Subset.refl _, List.Subset.refl _⟩
  exact (every_namesIn_iff _).mp
    (every_optimize keptByRules_namesIn.every_round namesIn_withNote maxRounds he)

/-! ## Variables -/

/-- Names are added unless a list or dictionary is among them. -/
theorem exists_addNames_iff (names : List Value) : ∀ known,
    (∃ ns, addNames known names = .ok ns) ↔ ∀ name ∈ names, name.isHashable = true := by
  induction names with
  | nil => exact fun known => iff_of_true ⟨known, rfl⟩ fun _ h => by cases h
  | cons name rest ih =>
    intro known
    rw [addNames, List.forall_mem_cons]
    cases hname : name.isHashable with
    | false => simp
    | true => simp [ih]

/-- What is known stays, and each name is added unless an equal one is known. -/
theorem mem_addNames (names : List Value) : ∀ {known ns}, addNames known names = .ok ns →
    known ⊆ ns ∧ ns ⊆ known ++ names ∧
      ∀ v ∈ names, ∃ w ∈ ns, w.identical v = true := by
  induction names with
  | nil =>
    intro known ns h
    obtain rfl := Except.ok.inj h
    exact ⟨List.Subset.refl _, by simp, fun v hv => by cases hv⟩
  | cons name rest ih =>
    intro known ns h
    rw [addNames] at h
    cases hname : name.isHashable with
    | false => simp [hname] at h
    | true =>
      rw [hname] at h
      obtain ⟨hknown, hns, hrest⟩ := ih h
      rw [List.forall_mem_cons]
      cases hany : known.any (·.identical name) with
      | true =>
        rw [hany] at hknown hns
        obtain ⟨w, hw, heq⟩ := List.any_eq_true.mp hany
        refine ⟨hknown, fun v hv => ?_, ⟨w, hknown hw, heq⟩, hrest⟩
        rcases List.mem_append.mp (hns hv) with hv | hv
        · exact List.mem_append_left _ hv
        · exact List.mem_append_right _ (List.mem_cons_of_mem _ hv)
      | false =>
        rw [hany] at hknown hns
        obtain ⟨hknown, hnew⟩ := List.append_subset.mp hknown
        refine ⟨hknown, fun v hv => ?_, ⟨name, hnew (List.mem_singleton_self _),
          Value.identical_self hname⟩, hrest⟩
        simpa using hns hv

theorem exists_variables_iff (e : Expr) :
    (∃ ns, e.variables = .ok ns) ↔ ∀ name ∈ e.mentions, name.isHashable = true :=
  exists_addNames_iff e.mentions []

/-- If the variables of a tree can be extracted, so can those of a tree with no other names,
    and each of these equals one of the tree. -/
theorem variables_of_mentions_subset {e r : Expr} (h : r.mentions ⊆ e.mentions) {ns : List Value}
    (hns : e.variables = .ok ns) :
    ∃ ms, r.variables = .ok ms ∧ ∀ v ∈ ms, ∃ w ∈ ns, w.identical v = true := by
  have hhashable := (exists_variables_iff e).mp ⟨ns, hns⟩
  obtain ⟨ms, hms⟩ := (exists_variables_iff r).mpr fun name hname => hhashable name (h hname)
  refine ⟨ms, hms, fun v hv => ?_⟩
  have hmention : v ∈ r.mentions := (mem_addNames r.mentions hms).2.1 hv
  exact (mem_addNames e.mentions hns).2.2 v (h hmention)

/-! ## Parts -/

theorem whole_number (n : Number) : Whole (number n) :=
  whole_literal.mpr rfl

/-- Only whether a child is there matters for whether a node is whole. -/
theorem keptBy_whole {R : Expr → Expr → Prop} (hR : ∀ {e e'}, R e e' → e'.isAbsent = e.isAbsent) :
    KeptBy R Whole where
  binary h hl hr := by
    rw [whole_binary, hR hl, hR hr]
    exact whole_binary.mp h
  unary h he := by
    rw [whole_unary, hR he]
    exact whole_unary.mp h
  call h hargs := by
    have hany : ∀ {args args'}, List.Forall₂ R args args' →
        args'.any isAbsent = args.any isAbsent := by
      intro args args' hargs
      induction hargs with
      | nil => rfl
      | cons ha _ ih => rw [List.any_cons, List.any_cons, hR ha, ih]
    rw [whole_call, hany hargs]
    exact whole_call.mp h
  assign h he := by
    rw [whole_assign, hR he]
    exact whole_assign.mp h
  group h he := by
    rw [whole_group, hR he]
    exact whole_group.mp h

theorem keptByRules_whole : KeptByRules Whole where
  folding :=
    { children := keptBy_whole foldConstants_isAbsent
      finite := fun _ => whole_number _
      negated := fun _ => whole_number _
      truth := fun _ => whole_literal.mpr rfl }
  dropping := keptBy_whole fun h => h ▸ dropRedundant_isAbsent _
  joining := keptBy_whole fun h => h ▸ joinTerms_isAbsent _
  one := whole_number _
  two := whole_number _
  product _ := whole_binary.mpr ⟨⟨rfl, rfl⟩, by decide⟩

theorem variableNamed_withNote {note : Option Note} (e : Expr) :
    VariableNamed (e.withNote note) ↔ VariableNamed e := by
  cases e <;> exact .rfl

theorem keptBy_variableNamed (R : Expr → Expr → Prop) : KeptBy R VariableNamed where
  binary _ _ _ := trivial
  unary _ _ := trivial
  call _ _ := trivial
  assign _ _ := trivial
  group _ _ := trivial

theorem keptByRules_variableNamed : KeptByRules VariableNamed where
  folding :=
    { children := keptBy_variableNamed _
      finite := fun _ => trivial
      negated := fun _ => trivial
      truth := fun _ => trivial }
  dropping := keptBy_variableNamed _
  joining := keptBy_variableNamed _
  one := trivial
  two := trivial
  product _ := trivial

/-! ## Printing -/

theorem plainCode_isFault (v : Value) : FailsIn (·.isOwn = false) (plainCode v) := by
  have hplain : FailsIn (fun _ => True) v.plain := fun _ _ => trivial
  exact hplain.mapError fun _ _ => rfl

theorem valueCode_isFault (v : Value) : FailsIn (·.isOwn = false) (valueCode v) := by
  unfold valueCode
  split
  · exact .ok _
  · exact .ok _
  · rename_i n
    have htext : FailsIn (fun _ => True) n.text := fun _ _ => trivial
    unfold numberCode
    refine FailsIn.bind ?_ fun _ => .ok _
    exact htext.mapError fun _ _ => rfl
  · exact (plainCode_isFault v).bind fun _ => .ok _

mutual

/-- Where every node is whole, the printer fails for a name or a value only. -/
theorem code_isFault : (e : Expr) → e.Every Whole → FailsIn (·.isOwn = false) e.code
  | absent, he => (not_whole_absent he).elim
  | literal v fallback note, he => by
    obtain ⟨w, rfl⟩ := Option.isSome_iff_exists.mp (whole_literal.mp he)
    rw [code]
    exact valueCode_isFault w
  | var name note, he => by
    rw [code, if_pos (whole_var.mp he)]
    exact plainCode_isFault name
  | group body note, he => by
    rw [code, whole_group.mp he.1]
    exact (code_isFault body he.2).bind fun _ => .ok _
  | unary op e note, he => by
    obtain ⟨hpresent, hop⟩ := whole_unary.mp he.1
    rw [code, hpresent, hop]
    exact (plainCode_isFault op).bind fun _ => (code_isFault e he.2).bind fun _ => .ok _
  | assign name e note, he => by
    obtain ⟨hname, hpresent⟩ := whole_assign.mp he.1
    rw [code, hname, hpresent]
    exact (plainCode_isFault name).bind fun _ => (code_isFault e he.2).bind fun _ => .ok _
  | binary op l r note, he => by
    obtain ⟨⟨hl, hr⟩, hop⟩ := whole_binary.mp he.1
    rw [code, hl, hr, hop]
    exact (code_isFault l he.2.1).bind fun _ => (plainCode_isFault op).bind fun _ =>
      (code_isFault r he.2.2).bind fun _ => .ok _
  | call name args note, he => by
    have hargs := argumentCodes_isFault args he.2
    unfold code
    rw [(whole_call.mp he.1).1, if_neg (by decide)]
    split
    · exact .ok _
    · exact .error rfl
    · refine hargs.bind fun _ => ?_
      split
      · exact .error rfl
      · exact (plainCode_isFault name).bind fun _ => .ok _

theorem argumentCodes_isFault : (args : List Expr) → EveryArgument Whole args →
    FailsIn (·.isOwn = false) (argumentCodes args)
  | [], _ => .ok _
  | a :: rest, he => by
    rw [argumentCodes]
    exact (code_isFault a he.1).bind fun _ => (argumentCodes_isFault rest he.2).bind fun _ => .ok _

end

theorem render_isFault {e : Expr} (he : e.Every Whole) : FailsIn (·.isOwn = false) e.render := by
  have hcode := code_isFault e he
  cases e with
  | var name note =>
    rw [render, if_pos (whole_var.mp he)]
    exact .ok _
  | _ => exact hcode.bind fun _ => .ok _

/-! ## Optimized trees -/

theorem score_le_of_shrinks {e e' : Expr} (h : Shrinks e' e) : e'.score ≤ e.score := by
  obtain rfl | ⟨hlt, -⟩ | ⟨heq, -⟩ := h
  · exact Nat.le_refl _
  · exact Nat.le_of_lt hlt
  · exact Nat.le_of_eq heq

theorem optimize_score_le (e : Expr) (maxRounds : Int) :
    (e.optimize maxRounds).score ≤ e.score := by
  unfold optimize
  split
  · rename_i r hr
    obtain ⟨e', he', hr⟩ := bind_eq_ok hr
    rw [← Except.ok.inj hr, renote, score_withNote]
    have hle := score_le_of_shrinks (rounds_shrinks _ he')
    rwa [score_withNote] at hle
  · exact Nat.le_refl _

theorem optimize_notedErrors {e : Expr} (maxRounds : Int) (h : e.notedErrors = []) :
    (e.optimize maxRounds).notedErrors = [] := by
  have hrenote : ∀ r : Expr, (r.renote e.note?).notedErrors = [] := by
    unfold notedErrors at h
    intro r
    cases hnote : e.note? with
    | none => cases r <;> rfl
    | some note =>
      rw [hnote] at h
      cases r with
      | absent => rfl
      | _ => exact h
  unfold optimize
  split
  · rename_i r hr
    obtain ⟨e', -, hr⟩ := bind_eq_ok hr
    rw [← Except.ok.inj hr]
    exact hrenote e'
  · exact h

/-- A tree that validation accepts is still accepted, and the printer finds nothing missing
    in it. -/
theorem optimize_valid {v : Validator} {e : Expr} {fs : List Finding} (maxRounds : Int)
    (hfs : v.validate e = .ok fs) (hvalid : Findings.valid fs = true) :
    (∃ fs', v.validate (e.optimize maxRounds) = .ok fs' ∧ Findings.valid fs' = true) ∧
      FailsIn (·.isOwn = false) (e.optimize maxRounds).render := by
  obtain ⟨hnoted, hwhole⟩ := (valid_iff hfs).mp hvalid
  obtain ⟨hnamed, -⟩ := (exists_validate_iff v e).mp ⟨fs, hfs⟩
  have hnoted' := optimize_notedErrors maxRounds hnoted
  have hwhole' := every_optimize keptByRules_whole.every_round whole_withNote maxRounds hwhole
  have hnamed' := every_optimize keptByRules_variableNamed.every_round variableNamed_withNote
    maxRounds hnamed
  obtain ⟨fs', hfs'⟩ := (exists_validate_iff v _).mpr ⟨hnamed', by simp [hnoted']⟩
  exact ⟨⟨fs', hfs', (valid_iff hfs').mpr ⟨hnoted', hwhole'⟩⟩, render_isFault hwhole'⟩

/-- Optimizing makes no tree worse for the analyses, whatever the tree and the number of
    rounds. The score does not grow. Each name of a variable and each target of an assignment
    is one of the tree, and the variables can be extracted if those of the tree can. A tree
    in which validation finds no error has none afterwards, so that the printer does not
    report a missing part. -/
theorem optimize_analyses (e : Expr) (maxRounds : Int) :
    (e.optimize maxRounds).score ≤ e.score ∧
    (e.optimize maxRounds).mentions ⊆ e.mentions ∧
    (∀ ns, e.variables = .ok ns → ∃ ms, (e.optimize maxRounds).variables = .ok ms ∧
      ∀ v ∈ ms, ∃ w ∈ ns, w.identical v = true) ∧
    (e.optimize maxRounds).assigned ⊆ e.assigned ∧
    ∀ (v : Validator) (fs : List Finding), v.validate e = .ok fs → Findings.valid fs = true →
      (∃ fs', v.validate (e.optimize maxRounds) = .ok fs' ∧ Findings.valid fs' = true) ∧
        FailsIn (·.isOwn = false) (e.optimize maxRounds).render := by
  obtain ⟨hmentions, hassigned⟩ := optimize_names e maxRounds
  exact ⟨optimize_score_le e maxRounds, hmentions,
    fun ns hns => variables_of_mentions_subset hmentions hns, hassigned,
    fun v fs hfs hvalid => optimize_valid maxRounds hfs hvalid⟩

end Expr
end TokenFormula
