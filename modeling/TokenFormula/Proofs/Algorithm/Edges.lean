import Mathlib.Data.List.Nodup
import TokenFormula.Algorithm.Dependency
import TokenFormula.Proofs.Algorithm.Step
import TokenFormula.Proofs.Expr.Footprint
import TokenFormula.Proofs.Expr.Rebuild

/-!
# Edges between formulas and their readers

An edge says that a formula assigns a name that a node with a later first step
reads. Names are compared as they are spelled: the id of a variable and its name
are different, although both reach the same binding in a run.

Results:
* `DependencyNode.Feeds`: a node assigns a name that another node reads later.
* `mem_edges_iff`, `exists_dependency_iff`: the edges and the dependencies.
* `Algorithm.RunsTree`: the tree that a step evaluates.
* `edge_between_iff`: when there is an edge between the targets of two steps.
* `not_edge_between`: a variable assigned by its id and read by its name.
-/

namespace TokenFormula

/-! ## Graphs -/

/-- The formula assigns a name, the other node reads it, and the first step of the
    formula is before that of the other node. -/
structure DependencyNode.Feeds (p r : DependencyNode) (name : String) : Prop where
  type_eq : p.type = .formula
  output : name ∈ p.outputs
  input : name ∈ r.inputs
  earlier : ∃ i j, p.stepIndex? = some i ∧ r.stepIndex? = some j ∧ i < j

theorem feeds_iff {p r : DependencyNode × Nat} {name : String} :
    feeds p r name = true ↔ p.1.type = .formula ∧ p.2 ≠ r.2 ∧ name ∈ p.1.outputs ∧
      ∃ i j, p.1.stepIndex? = some i ∧ r.1.stepIndex? = some j ∧ i < j := by
  unfold feeds
  cases p.1.stepIndex? <;> cases r.1.stepIndex? <;> simp [and_assoc]

theorem mem_edgesInto_iff {nodes : List DependencyNode} {r : DependencyNode × Nat}
    (hr : r ∈ nodes.zipIdx) {e : DependencyEdge} :
    e ∈ edgesInto nodes.zipIdx r ↔
      ∃ p ∈ nodes, p.Feeds r.1 e.name ∧ e = ⟨p.id, r.1.id, e.name⟩ := by
  unfold edgesInto
  simp only [List.mem_flatMap, List.mem_map, List.mem_filter, feeds_iff]
  constructor
  · rintro ⟨name, hname, p, ⟨hp, htype, -, hout, hearlier⟩, rfl⟩
    obtain ⟨-, hp⟩ := List.mem_zipIdx' hp
    exact ⟨p.1, hp ▸ List.getElem_mem _, ⟨htype, hout, hname, hearlier⟩, rfl⟩
  · rintro ⟨p, hp, ⟨htype, hout, hin, i, j, hi, hj, hij⟩, he⟩
    obtain ⟨k, hk, rfl⟩ := List.getElem_of_mem hp
    refine ⟨e.name, hin, (nodes[k], k), ⟨?_, htype, ?_, hout, i, j, hi, hj, hij⟩, he.symm⟩
    · exact List.mk_mem_zipIdx_iff_getElem?.mpr (List.getElem?_eq_getElem hk)
    · -- No first step is before itself.
      rintro rfl
      obtain ⟨-, hr⟩ := List.mem_zipIdx' hr
      rw [hr, hi] at hj
      obtain rfl := Option.some.inj hj
      exact Nat.lt_irrefl i hij

theorem mem_foldl_addNew {s : String} {α : Type} (f : α → String) (xs : List α) :
    ∀ known : List String, s ∈ xs.foldl (fun known x => addNew (f x) known) known ↔
      s ∈ known ∨ ∃ x ∈ xs, f x = s := by
  induction xs with
  | nil => intro known; simp
  | cons x rest ih =>
    intro known
    have hadd : s ∈ addNew (f x) known ↔ s ∈ known ∨ f x = s := by
      unfold addNew
      split
      · rename_i h
        refine ⟨.inl, fun h' => h'.elim id ?_⟩
        rintro rfl
        exact h
      · simp [eq_comm]
    rw [List.foldl_cons, ih, hadd, or_assoc]
    simp only [List.mem_cons, exists_eq_or_imp]

namespace Algorithm

variable {a : Algorithm} {language : String}

/-- The edges of an algorithm. -/
theorem mem_edges_iff {e : DependencyEdge} : e ∈ (a.dependencies language).edges ↔
    ∃ p ∈ a.bareNodes language, ∃ r ∈ a.bareNodes language,
      p.Feeds r e.name ∧ e = ⟨p.id, r.id, e.name⟩ := by
  unfold dependencies
  simp only [List.mem_flatMap]
  constructor
  · rintro ⟨r, hr, he⟩
    obtain ⟨p, hp, hfeeds, he⟩ := (mem_edgesInto_iff hr).mp he
    obtain ⟨-, hr⟩ := List.mem_zipIdx' hr
    exact ⟨p, hp, r.1, hr ▸ List.getElem_mem _, hfeeds, he⟩
  · rintro ⟨p, hp, r, hr, hfeeds, he⟩
    obtain ⟨k, hk, rfl⟩ := List.getElem_of_mem hr
    have hr := List.mk_mem_zipIdx_iff_getElem?.mpr (List.getElem?_eq_getElem hk)
    exact ⟨_, hr, (mem_edgesInto_iff hr).mpr ⟨p, hp, hfeeds, he⟩⟩

/-- The dependencies of the nodes with an id are the sources of the edges to it. -/
theorem exists_dependency_iff {source target : String} :
    (∃ node ∈ (a.dependencies language).nodes, node.id = target ∧ source ∈ node.dependencies) ↔
      ∃ name, ⟨source, target, name⟩ ∈ (a.dependencies language).edges := by
  unfold dependencies withDependencies
  simp only [List.mem_map, List.mem_flatMap]
  constructor
  · rintro ⟨_, ⟨r, hr, rfl⟩, rfl, hs⟩
    obtain ⟨e, he, rfl⟩ := ((mem_foldl_addNew DependencyEdge.source _ []).mp hs).resolve_left
      List.not_mem_nil
    obtain ⟨p, -, -, hedge⟩ := (mem_edgesInto_iff hr).mp he
    exact ⟨e.name, r, hr, by rw [hedge] at he ⊢; exact he⟩
  · rintro ⟨name, r, hr, he⟩
    obtain ⟨p, -, -, hedge⟩ := (mem_edgesInto_iff hr).mp he
    exact ⟨_, ⟨r, hr, rfl⟩, (congrArg DependencyEdge.target hedge).symm,
      (mem_foldl_addNew DependencyEdge.source _ []).mpr (.inr ⟨_, he, rfl⟩)⟩

/-! ## Steps -/

/-- The step evaluates the tree. -/
def RunsTree (a : Algorithm) (settings : Settings) (s : Step) (e : Expr) : Prop :=
  ∃ t, a.target settings s = .ok t ∧ t.tree = .ok (.ok e)

theorem runsTree_unique {settings : Settings} {s : Step} {e e' : Expr}
    (h : a.RunsTree settings s e) (h' : a.RunsTree settings s e') : e' = e := by
  obtain ⟨t, ht, he⟩ := h
  obtain ⟨t', ht', he'⟩ := h'
  rw [ht] at ht'
  cases ht'
  rw [he] at he'
  cases he'
  rfl

/-- No formula has a stored tree. -/
def NoStoredTree (a : Algorithm) : Prop :=
  ∀ f ∈ a.formulas, ∀ p ∈ f.expressions, p.2.tree? = none

/-- The formulas and conditions have different ids. -/
def DistinctIds (a : Algorithm) : Prop :=
  (a.formulas.map Formula.id ++ a.conditions.map Condition.id).Nodup

/-- The first step with an id comes before the first step with another id. -/
def FirstBefore (a : Algorithm) (id id' : String) : Prop :=
  ∃ i j, a.stepIndex? id = some i ∧ a.stepIndex? id' = some j ∧ i < j

/-- The name that a tree assigns at its root. -/
def rootOutputs : Expr → List String
  | .assign (.text key) _ _ => [key]
  | _ => []

theorem inputsAndOutputs_of_parseChecked {source : String} {e : Expr}
    (h : parseChecked source = .ok e) :
    inputsAndOutputs source = (e.variableNames, rootOutputs e) := by
  unfold parseChecked at h
  dsimp only at h
  split at h
  · rename_i hread
    obtain rfl := Except.ok.inj h
    have hspelled := (Expr.spelled_parse source).root
    unfold inputsAndOutputs
    dsimp only
    rw [hread]
    generalize Expr.parse source = e at hspelled ⊢
    split
    · rename_i h
      cases h
    · split
      · rename_i name body note
        have hname : name.isEmpty = false := by
          simpa [Value.isTruthy] using (Expr.whole_assign.mp hspelled.1).1
        rw [hname]
        rfl
      · rename_i hne
        unfold rootOutputs
        split
        · exact absurd rfl (hne _ _ _)
        · rfl
  · cases h

/-- Without a stored tree, the tree of a formula is that of its text. -/
theorem parseChecked_sourceIn {f : Formula} {settings : Settings} {e : Expr}
    (hstored : ∀ p ∈ f.expressions, p.2.tree? = none) (h : f.tree settings = .ok (.ok e)) :
    parseChecked (f.sourceIn settings.language) = .ok e := by
  unfold Formula.tree at h
  unfold Formula.sourceIn
  cases hx : f.expression? settings.language with
  | none =>
    rw [hx] at h
    cases h
  | some x =>
    rw [hx] at h
    have hnone : x.tree? = none := hstored _ (Entries.mem_of_get? hx)
    dsimp only at h
    rw [hnone] at h
    exact Except.ok.inj h

theorem eq_of_id_eq (hids : a.DistinctIds) {p r : DependencyNode}
    (hp : p ∈ a.bareNodes language) (hr : r ∈ a.bareNodes language) (h : p.id = r.id) :
    p = r := by
  have hnodup : ((a.bareNodes language).map DependencyNode.id).Nodup := by
    unfold bareNodes
    rw [List.map_append, List.map_map, List.map_map]
    exact hids
  exact List.inj_on_of_nodup_map hnodup hp hr h

/-- A step that evaluates a tree refers to a node with the names of the tree. -/
theorem exists_node {settings : Settings} (hstored : a.NoStoredTree) {s : Step} {e : Expr}
    (h : a.RunsTree settings s e) : ∃ node ∈ a.bareNodes settings.language, node.id = s.id ∧
      node.stepIndex? = a.stepIndex? s.id ∧ node.inputs = e.variableNames ∧
      (s.type? = some .formula → node.type = .formula ∧ node.outputs = rootOutputs e) := by
  obtain ⟨t, ht, he⟩ := h
  obtain ⟨-, f, hf, rfl⟩ | ⟨htype, c, hc, rfl⟩ := target_cases ht
  · obtain ⟨hmem, hid⟩ : f ∈ a.formulas ∧ f.id = s.id := by
      exact ⟨List.mem_of_find?_eq_some hf, by simpa using List.find?_some hf⟩
    have hsource := inputsAndOutputs_of_parseChecked
      (parseChecked_sourceIn (hstored f hmem) he)
    refine ⟨a.formulaNode settings.language f, ?_, hid, ?_, ?_, fun _ => ⟨rfl, ?_⟩⟩
    · exact List.mem_append_left _ (List.mem_map_of_mem hmem)
    · exact congrArg a.stepIndex? hid
    · exact congrArg Prod.fst hsource
    · exact congrArg Prod.snd hsource
  · have hid : c.id = s.id := by simpa using List.find?_some hc
    have hsource := inputsAndOutputs_of_parseChecked (Except.ok.inj he)
    refine ⟨a.conditionNode c, ?_, hid, congrArg a.stepIndex? hid, congrArg Prod.fst hsource, ?_⟩
    · exact List.mem_append_right _ (List.mem_map_of_mem (List.mem_of_find?_eq_some hc))
    · rw [htype]
      exact nofun

/-- Two steps evaluate trees, the first of them as a formula that assigns a name at
    the root. There is an edge from the formula to the target of the other step, and
    the formula is among its dependencies, just where the other tree has a variable
    of this spelling and its target has its first step after that of the formula. -/
theorem edge_between_iff {settings : Settings} (hstored : a.NoStoredTree) (hids : a.DistinctIds)
    {s s' : Step} {key : String} {body e : Expr} {note : Option Note}
    (hs : s.type? = some .formula) (hassign : a.RunsTree settings s (.assign (.text key) body note))
    (hread : a.RunsTree settings s' e) :
    ((∃ name, ⟨s.id, s'.id, name⟩ ∈ (a.dependencies settings.language).edges) ↔
      key ∈ e.variableNames ∧ a.FirstBefore s.id s'.id) ∧
    ((∃ node ∈ (a.dependencies settings.language).nodes,
        node.id = s'.id ∧ s.id ∈ node.dependencies) ↔
      key ∈ e.variableNames ∧ a.FirstBefore s.id s'.id) := by
  -- As ids are different, the two nodes are the only ones that an edge between the ids
  -- can come from.
  obtain ⟨p, hp, hpid, hpstep, -, hptype⟩ := exists_node hstored hassign
  obtain ⟨htype, houtputs⟩ := hptype hs
  obtain ⟨r, hr, hrid, hrstep, hinputs, -⟩ := exists_node hstored hread
  rw [exists_dependency_iff, and_self]
  simp only [mem_edges_iff, DependencyEdge.mk.injEq]
  constructor
  · rintro ⟨name, p', hp', r', hr', hfeeds, hid, hid', -⟩
    obtain rfl : p' = p := eq_of_id_eq hids hp' hp (hid.symm.trans hpid.symm)
    obtain rfl : r' = r := eq_of_id_eq hids hr' hr (hid'.symm.trans hrid.symm)
    obtain ⟨-, hout, hin, hearlier⟩ := hfeeds
    rw [houtputs, rootOutputs, List.mem_singleton] at hout
    rw [hinputs] at hin
    rw [hpstep, hrstep] at hearlier
    exact ⟨hout ▸ hin, hearlier⟩
  · rintro ⟨hname, hearlier⟩
    refine ⟨key, p, hp, r, hr, ⟨htype, ?_, hinputs ▸ hname, ?_⟩, hpid.symm, hrid.symm, trivial⟩
    · rw [houtputs, rootOutputs, List.mem_singleton]
    · rwa [hpstep, hrstep]

/-- Two formulas over the variable `width` with the id `v1`: the first assigns it
    under a spelling, the second doubles it. -/
def doubledWidth (spelling : String) : Algorithm :=
  ofTexts "dimension" [⟨"v1", "width", some .number, .num (.int 1), none, false, none, none⟩]
    [("F1", spelling ++ " = 5"), ("F2", "width * 2")]

set_option maxRecDepth 10000 in
/-- Under its name the variable that is assigned is the one that is read. -/
theorem edge_between_iff_same_name :
    (∃ name, ⟨"F1", "F2", name⟩ ∈ ((doubledWidth "width").dependencies
        Settings.default.language).edges) ∧
      ∃ node ∈ ((doubledWidth "width").dependencies Settings.default.language).nodes,
        node.id = "F2" ∧ "F1" ∈ node.dependencies := by
  have hstored : (doubledWidth "width").NoStoredTree := by
    unfold NoStoredTree
    decide
  have hids : (doubledWidth "width").DistinctIds := by
    unfold DistinctIds
    decide
  have hassign : (doubledWidth "width").RunsTree Settings.default ⟨some .formula, "F1", "F1"⟩
      (.assign (.text "width") (Expr.number (.int 5)) _) := ⟨_, rfl, rfl⟩
  have hread : (doubledWidth "width").RunsTree Settings.default ⟨some .formula, "F2", "F2"⟩
      (.binary (.text "*") (.var (.text "width") none) (Expr.number (.int 2)) _) := ⟨_, rfl, rfl⟩
  have hiff := edge_between_iff hstored hids rfl hassign hread
  have hnamed : "width" ∈ Expr.variableNames
      (.binary (.text "*") (.var (.text "width") none) (Expr.number (.int 2)) none) := by decide
  exact ⟨hiff.1.mpr ⟨hnamed, 0, 1, rfl, rfl, by decide⟩,
    hiff.2.mpr ⟨hnamed, 0, 1, rfl, rfl, by decide⟩⟩

set_option maxRecDepth 10000 in
/-- Under its id it is not, although the second formula doubles what the first has
    assigned. -/
theorem not_edge_between :
    (doubledWidth "v1").NoStoredTree ∧ (doubledWidth "v1").DistinctIds ∧
      ((doubledWidth "v1").variables.map Variable.name ++
        (doubledWidth "v1").variables.map Variable.id).Nodup ∧
      (doubledWidth "v1").steps = [⟨some .formula, "F1", "F1"⟩, ⟨some .formula, "F2", "F2"⟩] ∧
      (∃ body note, (doubledWidth "v1").RunsTree Settings.default ⟨some .formula, "F1", "F1"⟩
        (.assign (.text "v1") body note)) ∧
      (∃ e, (doubledWidth "v1").RunsTree Settings.default ⟨some .formula, "F2", "F2"⟩ e ∧
        "width" ∈ e.reads) ∧
      (∃ r, ((doubledWidth "v1").run Settings.default (.num (.int 0)) [] []).1 = .ok r ∧
        r.final.identical (.num (.int 10)) = true) ∧
      ((doubledWidth "v1").dependencies Settings.default.language).edges = [] ∧
      ∀ node ∈ ((doubledWidth "v1").dependencies Settings.default.language).nodes,
        node.dependencies = [] := by
  refine ⟨?_, ?_, by decide, rfl, ⟨_, _, _, rfl, rfl⟩, ⟨_, ⟨_, rfl, rfl⟩, ?_⟩, ?_, rfl, ?_⟩
  · unfold NoStoredTree
    decide
  · unfold DistinctIds
    decide
  · exact List.mem_cons_self
  · have hfinal : ((doubledWidth "v1").run Settings.default (.num (.int 0)) [] []).1.toOption.map
        (·.final.identical (.num (.int 10))) = some true := by decide +kernel
    cases hrun : ((doubledWidth "v1").run Settings.default (.num (.int 0)) [] []).1 with
    | error e =>
      rw [hrun] at hfinal
      cases hfinal
    | ok r =>
      rw [hrun] at hfinal
      exact ⟨r, rfl, Option.some.inj hfinal⟩
  · decide

end Algorithm
end TokenFormula
