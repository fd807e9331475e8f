import TokenFormula.Proofs.Algorithm.Edges

/-!
# Undefined and unused names

What the issues about dependencies say of the formulas and conditions. An undefined
name is read by one of them and is known neither as a variable nor as what a formula
assigns at its root. An unused variable is read by none of them, where an id that is
read counts as the name of its variable.

Results:
* `mem_variableNames_iff`, `isEmpty_of_mem_inputs`: the names that a text reads.
* `mem_reads_cases`: what an evaluation looks up besides them.
* `get?_recordUse`, `isReadIn_usageIn`: the uses that are recorded.
* `reports_iff`: the names that there are issues about.
* `reports_error_iff`: the names that are reported as undefined.
* `reports_warning_iff`: the variables that are reported as unused.
-/

namespace TokenFormula

/-! ## Names that are read -/

namespace Expr

mutual

/-- Every name that a tree mentions is there. -/
theorem isTruthy_of_mem_mentions {name : Value} : (e : Expr) → name ∈ e.mentions →
    name.isTruthy = true
  | absent, h | literal .., h => by cases h
  | var key _, h => by
    rw [mentions] at h
    split at h
    · rw [List.mem_singleton.mp h]
      assumption
    · cases h
  | binary _ l r _, h =>
    (List.mem_append.mp h).elim (isTruthy_of_mem_mentions l) (isTruthy_of_mem_mentions r)
  | unary _ e _, h | assign _ e _, h | group e _, h => isTruthy_of_mem_mentions e h
  | call _ args _, h => isTruthy_of_mem_argumentMentions args h

theorem isTruthy_of_mem_argumentMentions {name : Value} : (args : List Expr) →
    name ∈ argumentMentions args → name.isTruthy = true
  | [], h => by cases h
  | a :: rest, h =>
    (List.mem_append.mp h).elim (isTruthy_of_mem_mentions a)
      (isTruthy_of_mem_argumentMentions rest)

end

/-- The names of variables are the texts among the names that a tree mentions. -/
theorem mem_variableNames_iff {e : Expr} {x : String} :
    x ∈ e.variableNames ↔ .text x ∈ e.mentions := by
  refine (mem_foldl_addNew id (textsOf e.mentions) []).trans ?_
  simp only [List.not_mem_nil, false_or, id_eq, exists_eq_right, textsOf, List.mem_filterMap]
  constructor
  · rintro ⟨v, hv, hx⟩
    split at hx
    · rwa [Option.some.inj hx] at hv
    · cases hx
  · exact fun h => ⟨_, h, rfl⟩

mutual

/-- The first parts of the names that a tree calls. -/
def callHeads : Expr → List String
  | absent | literal .. | var .. => []
  | binary _ l r _ => l.callHeads ++ r.callHeads
  | unary _ e _ | assign _ e _ | group e _ => e.callHeads
  | call (.text dotted) args _ => headOf dotted :: argumentCallHeads args
  | call _ args _ => argumentCallHeads args

/-- The first parts of the names that arguments call. -/
def argumentCallHeads : List Expr → List String
  | [] => []
  | a :: rest => a.callHeads ++ argumentCallHeads rest

end

mutual

/-- A tree looks up the names that it mentions and the first parts of those that it
    calls. -/
theorem mem_reads_cases {key : String} : (e : Expr) → key.isEmpty = false → key ∈ e.reads →
    .text key ∈ e.mentions ∨ key ∈ e.callHeads
  | absent, _, h | literal .., _, h => by cases h
  | var name note, hkey, h => by
    cases name with
    | text name =>
      obtain rfl := List.mem_singleton.mp h
      left
      rw [mentions, if_pos (by simp [Value.isTruthy, hkey])]
      exact List.mem_singleton_self _
    | _ => cases h
  | binary _ l r _, hkey, h => by
    rcases List.mem_append.mp h with h | h
    · exact (mem_reads_cases l hkey h).imp (List.mem_append_left _) (List.mem_append_left _)
    · exact (mem_reads_cases r hkey h).imp (List.mem_append_right _) (List.mem_append_right _)
  | unary _ e _, hkey, h | assign _ e _, hkey, h | group e _, hkey, h => mem_reads_cases e hkey h
  | call name args note, hkey, h => by
    cases name with
    | text dotted =>
      rcases List.mem_cons.mp h with h | h
      · exact .inr (List.mem_cons.mpr (.inl h))
      · exact (mem_argumentReads_cases args hkey h).imp_right (List.mem_cons_of_mem _)
    | _ => exact mem_argumentReads_cases args hkey h

theorem mem_argumentReads_cases {key : String} : (args : List Expr) → key.isEmpty = false →
    key ∈ argumentReads args → .text key ∈ argumentMentions args ∨ key ∈ argumentCallHeads args
  | [], _, h => by cases h
  | a :: rest, hkey, h => by
    rcases List.mem_append.mp h with h | h
    · exact (mem_reads_cases a hkey h).imp (List.mem_append_left _) (List.mem_append_left _)
    · exact (mem_argumentReads_cases rest hkey h).imp (List.mem_append_right _)
        (List.mem_append_right _)

end

end Expr

/-- What a text reads is not empty. -/
theorem isEmpty_of_mem_inputs {source x : String} (h : x ∈ (inputsAndOutputs source).1) :
    x.isEmpty = false := by
  have hnames : x ∈ (Expr.parse source).variableNames := by
    unfold inputsAndOutputs at h
    dsimp only at h
    split at h
    · cases h
    · split at h <;> exact h
  have htruthy := Expr.isTruthy_of_mem_mentions _ (Expr.mem_variableNames_iff.mp hnames)
  simpa [Value.isTruthy] using htruthy

/-! ## Uses -/

section Uses

variable {aliases : Entries String} {node : DependencyNode} {nodes : List DependencyNode}
  {usage : Entries VariableUsage} {name x : String} {names : List String}

/-- The variable that a name is recorded for. -/
def recordedFor (aliases : Entries String) (name : String) : String :=
  (aliases.get? name).getD name

/-- Some formula or condition is recorded. -/
def VariableUsage.IsRead (u : VariableUsage) : Prop :=
  ¬ (u.formulas = [] ∧ u.conditions = [])

/-- A use of the name is recorded. -/
def IsReadIn (usage : Entries VariableUsage) (x : String) : Prop :=
  ∃ u, usage.get? x = some u ∧ u.IsRead

theorem addNew_ne_nil (s : String) (known : List String) : addNew s known ≠ [] := by
  unfold addNew
  split
  · exact List.ne_nil_of_mem ‹_›
  · simp

theorem VariableUsage.isRead_add (node : DependencyNode) (u : VariableUsage) :
    (u.add node).IsRead := by
  unfold add
  cases node.type with
  | formula => exact fun h => addNew_ne_nil _ _ h.1
  | condition => exact fun h => addNew_ne_nil _ _ h.2

/-- A record touches the variable that it is for, if it is known. -/
theorem get?_recordUse : (recordUse aliases node usage name).get? x =
    if x = recordedFor aliases name then (usage.get? x).map (·.add node) else usage.get? x := by
  unfold recordUse recordedFor
  dsimp only
  generalize (aliases.get? name).getD name = key
  cases h : usage.get? key with
  | none =>
    by_cases hx : x = key
    · simp [hx, h]
    · simp [hx]
  | some u =>
    by_cases hx : x = key
    · simp [hx, h]
    · simp [hx, Entries.get?_set_of_ne hx]

theorem has_recordUse : (recordUse aliases node usage name).has x = usage.has x := by
  unfold Entries.has
  rw [get?_recordUse]
  split
  · exact Option.isSome_map
  · rfl

theorem isReadIn_recordUse : IsReadIn (recordUse aliases node usage name) x ↔
    IsReadIn usage x ∨ usage.has x = true ∧ recordedFor aliases name = x := by
  unfold IsReadIn Entries.has
  rw [get?_recordUse]
  split
  · rename_i hx
    cases usage.get? x with
    | none => simp
    | some u => simp [VariableUsage.isRead_add, hx]
  · rename_i hx
    simp [Ne.symm hx]

theorem has_recordUses : (names.foldl (recordUse aliases node) usage).has x = usage.has x := by
  induction names generalizing usage with
  | nil => rfl
  | cons name rest ih => rw [List.foldl_cons, ih, has_recordUse]

theorem isReadIn_recordUses : IsReadIn (names.foldl (recordUse aliases node) usage) x ↔
    IsReadIn usage x ∨ usage.has x = true ∧ ∃ name ∈ names, recordedFor aliases name = x := by
  induction names generalizing usage with
  | nil => simp
  | cons name rest ih =>
    rw [List.foldl_cons, ih, isReadIn_recordUse, has_recordUse, or_assoc, ← and_or_left]
    simp only [List.mem_cons, exists_eq_or_imp]

theorem isReadIn_foldl :
    IsReadIn (nodes.foldl (fun usage node => node.inputs.foldl (recordUse aliases node) usage)
      usage) x ↔
    IsReadIn usage x ∨ usage.has x = true ∧ ∃ node ∈ nodes, ∃ name ∈ node.inputs,
      recordedFor aliases name = x := by
  induction nodes generalizing usage with
  | nil => simp
  | cons node rest ih =>
    rw [List.foldl_cons, ih, isReadIn_recordUses, has_recordUses, or_assoc, ← and_or_left]
    simp only [List.mem_cons, exists_eq_or_imp]

end Uses

namespace Algorithm

variable {a : Algorithm} {language x : String}

/-- The variables that have a record of their uses. -/
theorem unusedVariables_get? (hv : ∃ v ∈ a.variables, v.name = x) :
    ∃ isSystem, a.unusedVariables.get? x = some ⟨[], [], isSystem⟩ := by
  unfold unusedVariables
  rw [Entries.get?_set]
  split
  · exact ⟨true, rfl⟩
  · obtain ⟨v, hv, rfl⟩ := hv
    have hhas := (Entries.has_ofPairs v.name
      (a.variables.map fun v => (v.name, VariableUsage.mk [] [] false))).mpr
        (List.mem_map.mpr ⟨_, List.mem_map_of_mem hv, rfl⟩)
    obtain ⟨u, hu⟩ := Option.isSome_iff_exists.mp hhas
    obtain ⟨w, -, hw⟩ := List.mem_map.mp (Entries.mem_of_get?_ofPairs hu)
    obtain ⟨-, rfl⟩ := Prod.mk.inj hw
    exact ⟨false, hu⟩

/-- The uses of a variable that are recorded. -/
theorem isReadIn_usageIn (hv : ∃ v ∈ a.variables, v.name = x) (nodes : List DependencyNode) :
    IsReadIn (a.usageIn nodes) x ↔
      ∃ node ∈ nodes, ∃ name ∈ node.inputs, recordedFor a.idNames name = x := by
  obtain ⟨isSystem, hget⟩ := unusedVariables_get? hv
  have hnone : ¬ IsReadIn a.unusedVariables x := by
    rintro ⟨u, hu, hread⟩
    rw [hget] at hu
    obtain rfl := Option.some.inj hu
    exact hread ⟨rfl, rfl⟩
  have hhas : a.unusedVariables.has x = true := by
    rw [Entries.has, hget]
    rfl
  unfold usageIn
  rw [isReadIn_foldl, or_iff_right hnone, and_iff_right hhas]

/-! ## Issues -/

/-- There is an issue of a severity about a name. -/
def Reports (a : Algorithm) (language : String) (severity : Severity) (x : String) : Prop :=
  ∃ i ∈ a.dependencyIssues language, i.severity = severity ∧ i.subject? = some x

/-- The nodes of the graph read and assign what the nodes without dependencies do. -/
theorem exists_node_iff {p : List String → List String → Prop} :
    (∃ node ∈ (a.dependencies language).nodes, p node.inputs node.outputs) ↔
      ∃ node ∈ a.bareNodes language, p node.inputs node.outputs := by
  unfold dependencies withDependencies
  simp only [List.mem_map]
  constructor
  · rintro ⟨_, ⟨q, hq, rfl⟩, h⟩
    obtain ⟨-, hq⟩ := List.mem_zipIdx' hq
    exact ⟨q.1, hq ▸ List.getElem_mem _, h⟩
  · rintro ⟨node, hnode, h⟩
    obtain ⟨k, hk, rfl⟩ := List.getElem_of_mem hnode
    exact ⟨_, ⟨_, List.mk_mem_zipIdx_iff_getElem?.mpr (List.getElem?_eq_getElem hk), rfl⟩, h⟩

/-- Every node reads what some text reads. -/
theorem exists_source {node : DependencyNode} (h : node ∈ a.bareNodes language) :
    ∃ source, node.inputs = (inputsAndOutputs source).1 := by
  rcases List.mem_append.mp h with h | h
  · obtain ⟨f, -, rfl⟩ := List.mem_map.mp h
    exact ⟨f.sourceIn language, rfl⟩
  · obtain ⟨c, -, rfl⟩ := List.mem_map.mp h
    exact ⟨c.source, rfl⟩

theorem isDefined_iff : a.isDefined (a.dependencies language) x = true ↔
    (∃ v ∈ a.variables, v.name = x ∨ v.id = x) ∨ x = iterationName ∨
      ∃ node ∈ a.bareNodes language, x ∈ node.outputs := by
  rw [← exists_node_iff (p := fun _ outputs => x ∈ outputs)]
  simp [isDefined, or_assoc]

/-- The issues about names: those that nodes read and nothing defines, and the variables
    that are unused. -/
theorem reports_iff {severity : Severity} : a.Reports language severity x ↔
    (severity = .error ∧ (∃ node ∈ (a.dependencies language).nodes, x ∈ node.inputs) ∧
      a.isDefined (a.dependencies language) x = false) ∨
    (severity = .warning ∧
      ∃ v ∈ a.variables, isUnused (a.dependencies language) v = true ∧ v.name = x) := by
  unfold Reports dependencyIssues
  constructor
  · rintro ⟨i, hi, hseverity, hsubject⟩
    rcases List.mem_append.mp hi with hi | hi
    · rcases List.mem_append.mp hi with hi | hi
      · obtain ⟨node, hnode, hi⟩ := List.mem_flatMap.mp hi
        obtain ⟨name, hname, rfl⟩ := List.mem_map.mp hi
        obtain rfl := Option.some.inj hsubject
        obtain ⟨hinput, hnot⟩ := List.mem_filter.mp hname
        exact .inl ⟨hseverity.symm, ⟨node, hnode, hinput⟩, by simpa using hnot⟩
      · obtain ⟨ids, -, rfl⟩ := List.mem_map.mp hi
        cases hsubject
    · obtain ⟨v, hmem, rfl⟩ := List.mem_map.mp hi
      obtain ⟨hv, hunused⟩ := List.mem_filter.mp hmem
      exact .inr ⟨hseverity.symm, v, hv, hunused, Option.some.inj hsubject⟩
  · rintro (⟨rfl, ⟨node, hnode, hinput⟩, hnot⟩ | ⟨rfl, v, hv, hunused, rfl⟩)
    · refine ⟨undefinedIssue node x, ?_, rfl, rfl⟩
      refine List.mem_append_left _ (List.mem_append_left _ ?_)
      refine List.mem_flatMap.mpr ⟨node, hnode, ?_⟩
      exact List.mem_map_of_mem (List.mem_filter.mpr ⟨hinput, by simpa using hnot⟩)
    · refine ⟨unusedIssue v.name, ?_, rfl, rfl⟩
      exact List.mem_append_right _ (List.mem_map_of_mem (List.mem_filter.mpr ⟨hv, hunused⟩))

/-- A name is reported as undefined just where a formula or condition reads it, and it is
    no name or id of a variable, not the iteration value, and assigned at the root of no
    formula. -/
theorem reports_error_iff : a.Reports language .error x ↔
    (∃ node ∈ a.bareNodes language, x ∈ node.inputs) ∧
      (∀ v ∈ a.variables, v.name ≠ x ∧ v.id ≠ x) ∧ x ≠ iterationName ∧
      ∀ node ∈ a.bareNodes language, x ∉ node.outputs := by
  have hdefined : a.isDefined (a.dependencies language) x = false ↔
      (∀ v ∈ a.variables, v.name ≠ x ∧ v.id ≠ x) ∧ x ≠ iterationName ∧
        ∀ node ∈ a.bareNodes language, x ∉ node.outputs := by
    rw [← Bool.not_eq_true, isDefined_iff]
    simp only [not_or, not_exists, not_and, ne_eq]
  rw [reports_iff, ← hdefined, ← exists_node_iff (p := fun inputs _ => x ∈ inputs)]
  simp

/-- A variable is reported as unused just where no formula or condition reads it. -/
theorem reports_warning_iff : a.Reports language .warning x ↔
    (∃ v ∈ a.variables, v.name = x) ∧
      ∀ node ∈ a.bareNodes language, ∀ name ∈ node.inputs, recordedFor a.idNames name ≠ x := by
  have hunused : ∀ v ∈ a.variables, isUnused (a.dependencies language) v = true ↔
      ∀ node ∈ a.bareNodes language, ∀ name ∈ node.inputs,
        recordedFor a.idNames name ≠ v.name := by
    intro v hv
    have hread := isReadIn_usageIn ⟨v, hv, rfl⟩ (a.bareNodes language)
    have hnot : isUnused (a.dependencies language) v = true ↔
        ¬ IsReadIn (a.usageIn (a.bareNodes language)) v.name := by
      unfold isUnused dependencies IsReadIn VariableUsage.IsRead
      dsimp only
      cases (a.usageIn (a.bareNodes language)).get? v.name <;> simp
    rw [hnot, hread]
    simp only [not_exists, not_and, ne_eq]
  rw [reports_iff]
  constructor
  · rintro (⟨hseverity, -⟩ | ⟨-, v, hv, hnone, rfl⟩)
    · cases hseverity
    · exact ⟨⟨v, hv, rfl⟩, (hunused v hv).mp hnone⟩
  · rintro ⟨⟨v, hv, rfl⟩, hnone⟩
    exact .inr ⟨rfl, v, hv, (hunused v hv).mpr hnone, rfl⟩

end Algorithm
end TokenFormula
