import Mathlib.Logic.Relation
import TokenFormula.Proofs.Algorithm.Edges

/-!
# Dependencies without cycles

An edge leads to a node whose first step comes later than that of its source. So along
dependencies the first step moves to the front, whatever nodes share an id, and no chain
of them comes back. A search that follows dependencies never meets an id on its path.

Results:
* `cycles_visit`: a search that goes down in an order closes no cycle.
* `DependencyGraph.DependsOn`: what the dependencies of the first node with an id list.
* `dependencies_acyclic`: the edges, the dependencies and the search of an algorithm.
-/

namespace TokenFormula

/-! ## Searches -/

section Search

variable {next : String → List String} {below : String → String → Prop}

theorem cycles_foldl {α : Type} {f : Search → α → Search} {xs : List α}
    (h : ∀ x ∈ xs, ∀ s, (f s x).cycles = s.cycles) : ∀ s, (xs.foldl f s).cycles = s.cycles := by
  induction xs with
  | nil => exact fun s => rfl
  | cons x rest ih =>
    intro s
    rw [List.forall_mem_cons] at h
    rw [List.foldl_cons, ih h.2, h.1]

/-- A search whose steps go down in an order closes no cycle: what it meets is below
    the whole path, and so not on it. -/
theorem cycles_visit (hirrefl : ∀ id, ¬ below id id)
    (htrans : ∀ {i j k}, below i j → below j k → below i k)
    (hnext : ∀ id, ∀ d ∈ next id, below d id) (fuel : Nat) :
    ∀ (path : List String) (id : String) (s : Search), (∀ p ∈ path, below id p) →
      (visit next fuel path id s).cycles = s.cycles := by
  induction fuel with
  | zero => intro path id s _; rfl
  | succ fuel ih =>
    intro path id s hpath
    rw [visit]
    split_ifs with hmem hvisited
    · exact absurd (hpath id hmem) (hirrefl id)
    · rfl
    · refine cycles_foldl (fun d hd t => ih (path ++ [id]) d t ?_) _
      intro p hp
      rcases List.mem_append.mp hp with hp | hp
      · exact htrans (hnext id d hd) (hpath p hp)
      · rw [List.mem_singleton.mp hp]
        exact hnext id d hd

end Search

/-! ## Graphs -/

namespace DependencyGraph

variable {g : DependencyGraph} {below : String → String → Prop}

/-- The first node with an id depends on another id. -/
def DependsOn (g : DependencyGraph) (id other : String) : Prop :=
  other ∈ dependenciesOf (g.nodes.map fun n => (n.id, n.dependencies)) id

theorem exists_node_of_dependsOn {id other : String} (h : g.DependsOn id other) :
    ∃ node ∈ g.nodes, node.id = id ∧ other ∈ node.dependencies := by
  unfold DependsOn dependenciesOf at h
  cases hfind : (g.nodes.map fun n => (n.id, n.dependencies)).find? (·.1 == id) with
  | none =>
    rw [hfind] at h
    cases h
  | some p =>
    rw [hfind] at h
    obtain ⟨node, hnode, rfl⟩ := List.mem_map.mp (List.mem_of_find?_eq_some hfind)
    exact ⟨node, hnode, by simpa using List.find?_some hfind, h⟩

/-- Where dependencies go down in an order, no chain of them comes back. -/
theorem not_transGen_dependsOn (hirrefl : ∀ id, ¬ below id id)
    (htrans : ∀ {i j k}, below i j → below j k → below i k)
    (hdown : ∀ id other, g.DependsOn id other → below other id) (id : String) :
    ¬ Relation.TransGen g.DependsOn id id := by
  have hchain : ∀ other, Relation.TransGen g.DependsOn id other → below other id := by
    intro other h
    induction h with
    | single h => exact hdown _ _ h
    | tail _ h ih => exact htrans (hdown _ _ h) ih
  exact fun h => hirrefl id (hchain id h)

/-- Nor does the search find one. -/
theorem cycles_eq_nil (hirrefl : ∀ id, ¬ below id id)
    (htrans : ∀ {i j k}, below i j → below j k → below i k)
    (hdown : ∀ id other, g.DependsOn id other → below other id) : g.cycles = [] := by
  unfold DependencyGraph.cycles TokenFormula.cycles
  exact cycles_foldl (fun n _ s =>
    cycles_visit hirrefl htrans hdown _ [] n.1 s fun p hp => by cases hp) ⟨[], []⟩

end DependencyGraph

/-! ## Algorithms -/

namespace Algorithm

variable {a : Algorithm} {language : String}

theorem not_firstBefore_self (id : String) : ¬ a.FirstBefore id id := by
  rintro ⟨i, j, hi, hj, hij⟩
  rw [hi] at hj
  obtain rfl := Option.some.inj hj
  exact Nat.lt_irrefl i hij

theorem FirstBefore.trans {id id' id'' : String} (h : a.FirstBefore id id')
    (h' : a.FirstBefore id' id'') : a.FirstBefore id id'' := by
  obtain ⟨i, j, hi, hj, hij⟩ := h
  obtain ⟨j', k, hj', hk, hjk⟩ := h'
  rw [hj] at hj'
  obtain rfl := Option.some.inj hj'
  exact ⟨i, k, hi, hk, Nat.lt_trans hij hjk⟩

/-- A node has the place of the first step with its id. -/
theorem stepIndex?_of_mem {node : DependencyNode} (h : node ∈ a.bareNodes language) :
    node.stepIndex? = a.stepIndex? node.id := by
  rcases List.mem_append.mp h with h | h
  · obtain ⟨f, -, rfl⟩ := List.mem_map.mp h
    rfl
  · obtain ⟨c, -, rfl⟩ := List.mem_map.mp h
    rfl

theorem firstBefore_of_mem_edges {e : DependencyEdge} (h : e ∈ (a.dependencies language).edges) :
    a.FirstBefore e.source e.target := by
  obtain ⟨p, hp, r, hr, hfeeds, he⟩ := mem_edges_iff.mp h
  obtain ⟨i, j, hi, hj, hij⟩ := hfeeds.earlier
  rw [stepIndex?_of_mem hp] at hi
  rw [stepIndex?_of_mem hr] at hj
  rw [he]
  exact ⟨i, j, hi, hj, hij⟩

/-- Each edge leads from an id to one whose first step is later, and each dependency
    of a node is the source of an edge to its id. No id depends on itself along a chain
    of dependencies, and the search for cycles finds none. -/
theorem dependencies_acyclic (a : Algorithm) (language : String) :
    (∀ e ∈ (a.dependencies language).edges, a.FirstBefore e.source e.target) ∧
    (∀ node ∈ (a.dependencies language).nodes, ∀ id ∈ node.dependencies,
      ∃ e ∈ (a.dependencies language).edges, e.source = id ∧ e.target = node.id) ∧
    (∀ id, ¬ Relation.TransGen (a.dependencies language).DependsOn id id) ∧
    (a.dependencies language).cycles = [] := by
  have hsource : ∀ node ∈ (a.dependencies language).nodes, ∀ id ∈ node.dependencies,
      ∃ e ∈ (a.dependencies language).edges, e.source = id ∧ e.target = node.id := by
    intro node hnode id hid
    obtain ⟨name, he⟩ := exists_dependency_iff.mp ⟨node, hnode, rfl, hid⟩
    exact ⟨_, he, rfl, rfl⟩
  have hdown : ∀ id other, (a.dependencies language).DependsOn id other →
      a.FirstBefore other id := by
    intro id other h
    obtain ⟨node, hnode, rfl, hother⟩ := DependencyGraph.exists_node_of_dependsOn h
    obtain ⟨e, he, rfl, htarget⟩ := hsource node hnode other hother
    exact htarget ▸ firstBefore_of_mem_edges he
  exact ⟨fun e he => firstBefore_of_mem_edges he, hsource,
    DependencyGraph.not_transGen_dependsOn not_firstBefore_self FirstBefore.trans hdown,
    DependencyGraph.cycles_eq_nil not_firstBefore_self FirstBefore.trans hdown⟩

end Algorithm
end TokenFormula
