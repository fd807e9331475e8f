import Mathlib.Data.List.Chain
import Mathlib.Data.List.Nodup
import Mathlib.Data.List.Perm.Subperm
import TokenFormula.Proofs.Algorithm.Acyclic

/-!
# Cycles of dependencies

The search for cycles enters an id once, whatever path it is met on first. It still misses
no cycle: while it has found none, an id that it has left is the start of no endless chain
of dependencies, since all that the id depends on was left before it.

Results:
* `Searches`: the search with no bound on its depth, `Searches.unique`: it has one result.
* `searches_visit`: the bound that the search is given is never reached.
* `Searches.isCycle`: what a search finds are cycles.
* `Searches.acc`: a search that finds none has met no endless chain.
* `DependencyGraph.cycles_detected`: the cycles found in a graph, whatever its nodes are.
-/

namespace TokenFormula

/-! ## Searches without a bound -/

/-- Searching from ids in turn, at the end of a path, takes one state to another. No bound
    is put on the path, so a derivation is a search that ends by itself. -/
inductive Searches (next : String → List String) :
    (path ids : List String) → Search → Search → Prop
  | done {path s} : Searches next path [] s s
  | closes {path id rest s t} : id ∈ path →
      Searches next path rest { s with cycles := s.cycles ++ [path.dropWhile (· != id)] } t →
      Searches next path (id :: rest) s t
  | known {path id rest s t} : id ∉ path → id ∈ s.visited → Searches next path rest s t →
      Searches next path (id :: rest) s t
  | enters {path id rest s t u} : id ∉ path → id ∉ s.visited →
      Searches next (path ++ [id]) (next id) { s with visited := s.visited ++ [id] } t →
      Searches next path rest t u → Searches next path (id :: rest) s u

namespace Searches

variable {next : String → List String} {path ids : List String} {s t u : Search}

/-- Each state leads to one result at most. -/
theorem unique (h : Searches next path ids s t) : Searches next path ids s u → t = u := by
  induction h generalizing u with
  | done =>
    intro h'
    cases h'
    rfl
  | closes hmem _ ih =>
    intro h'
    cases h' with
    | closes _ hrest => exact ih hrest
    | known hmem' => exact absurd hmem hmem'
    | enters hmem' => exact absurd hmem hmem'
  | known hmem hvisited _ ih =>
    intro h'
    cases h' with
    | closes hmem' => exact absurd hmem' hmem
    | known _ _ hrest => exact ih hrest
    | enters _ hvisited' => exact absurd hvisited hvisited'
  | enters hmem hvisited _ _ ihinner ihrest =>
    intro h'
    cases h' with
    | closes hmem' => exact absurd hmem' hmem
    | known _ hvisited' => exact absurd hvisited' hvisited
    | enters _ _ hinner hrest =>
      obtain rfl := ihinner hinner
      exact ihrest hrest

theorem cons {id : String} {rest : List String} (h : Searches next path [id] s t)
    (hrest : Searches next path rest t u) : Searches next path (id :: rest) s u := by
  cases h with
  | closes hmem h =>
    cases h
    exact .closes hmem hrest
  | known hmem hvisited h =>
    cases h
    exact .known hmem hvisited hrest
  | enters hmem hvisited hinner h =>
    cases h
    exact .enters hmem hvisited hinner hrest

theorem foldl {f : Search → String → Search}
    (h : ∀ id ∈ ids, ∀ s, Searches next path [id] s (f s id)) :
    ∀ s, Searches next path ids s (ids.foldl f s) := by
  induction ids with
  | nil => exact fun s => .done
  | cons id rest ih =>
    intro s
    rw [List.forall_mem_cons] at h
    exact (h.1 s).cons (ih h.2 _)

/-- What was found stays found. -/
theorem cycles_prefix (h : Searches next path ids s t) : s.cycles <+: t.cycles := by
  induction h with
  | done => exact List.prefix_rfl
  | closes _ _ ih => exact (List.prefix_append _ _).trans ih
  | known _ _ _ ih => exact ih
  | enters _ _ _ _ ihinner ihrest => exact ihinner.trans ihrest

theorem cycles_eq_nil (h : Searches next path ids s t) (ht : t.cycles = []) : s.cycles = [] :=
  List.prefix_nil.mp (ht ▸ h.cycles_prefix)

end Searches

/-! ## The bound -/

/-- A bound of two more than the ids that depend on anything is never reached: a path holds
    an id once, and only its last id can be one that depends on nothing. -/
theorem searches_visit {next : String → List String} {ids : List String}
    (hids : ∀ id, next id ≠ [] → id ∈ ids) (fuel : Nat) :
    ∀ (path : List String) (id : String) (s : Search), path.Nodup → path ⊆ ids →
      ids.length + 2 ≤ fuel + path.length →
      Searches next path [id] s (visit next fuel path id s) := by
  induction fuel with
  | zero =>
    intro path id s hnodup hsub hfuel
    have hlength := (List.Nodup.subperm hnodup hsub).length_le
    omega
  | succ fuel ih =>
    intro path id s hnodup hsub hfuel
    rw [visit]
    split_ifs with hmem hvisited
    · exact .closes hmem .done
    · exact .known hmem hvisited .done
    · refine .enters hmem hvisited (Searches.foldl (fun d hd t => ?_) _) .done
      have hid : id ∈ ids := hids id (List.ne_nil_of_mem hd)
      refine ih (path ++ [id]) d t ?_ ?_ ?_
      · exact List.nodup_append_comm.mp (List.nodup_cons.mpr ⟨hmem, hnodup⟩)
      · exact List.append_subset.mpr ⟨hsub, by simpa using hid⟩
      · simp only [List.length_append, List.length_singleton]
        omega

/-! ## What is found -/

/-- Different ids, each of which depends on the next and the last on the first. -/
structure IsCycle (depends : String → String → Prop) (ids : List String) : Prop where
  ne_nil : ids ≠ []
  nodup : ids.Nodup
  chain : ids.IsChain depends
  closed : depends (ids.getLast ne_nil) (ids.head ne_nil)

namespace IsCycle

variable {depends : String → String → Prop} {path ids : List String} {id : String}

/-- A path from an id on is a cycle if its last id depends on that one. -/
theorem dropWhile (hmem : id ∈ path) (hnodup : path.Nodup) (hchain : path.IsChain depends)
    (hlast : ∀ last ∈ path.getLast?, depends last id) :
    IsCycle depends (path.dropWhile (· != id)) := by
  obtain ⟨before, after, rfl, hbefore⟩ := List.eq_append_cons_of_mem hmem
  have hdrop : (before ++ id :: after).dropWhile (· != id) = id :: after := by
    rw [List.dropWhile_append_of_pos (fun p hp => by simpa using ne_of_mem_of_not_mem hp hbefore)]
    simp
  rw [hdrop]
  refine ⟨List.cons_ne_nil _ _, (List.nodup_append.mp hnodup).2.1,
    hchain.suffix (List.suffix_append _ _), hlast _ ?_⟩
  rw [List.getLast?_append, List.getLast?_eq_getLast_of_ne_nil (List.cons_ne_nil id after)]
  rfl

/-- The first id of a cycle depends on itself along a chain of dependencies. -/
theorem exists_transGen (h : IsCycle depends ids) : ∃ id, Relation.TransGen depends id id :=
  ⟨_, .tail' (List.relationReflTransGen_of_exists_isChain ids h.chain h.ne_nil) h.closed⟩

end IsCycle

namespace Searches

variable {next : String → List String} {path ids : List String} {s t : Search}

/-- On a path along dependencies only cycles are found. -/
theorem isCycle (h : Searches next path ids s t) (hnodup : path.Nodup)
    (hchain : path.IsChain fun id other => other ∈ next id)
    (hlast : ∀ last ∈ path.getLast?, ids ⊆ next last)
    (hs : ∀ c ∈ s.cycles, IsCycle (fun id other => other ∈ next id) c) :
    ∀ c ∈ t.cycles, IsCycle (fun id other => other ∈ next id) c := by
  induction h with
  | done => exact hs
  | closes hmem _ ih =>
    refine ih hnodup hchain (fun last h => (List.cons_subset.mp (hlast last h)).2) ?_
    intro c hc
    rcases List.mem_append.mp hc with hc | hc
    · exact hs c hc
    · rw [List.mem_singleton.mp hc]
      exact .dropWhile hmem hnodup hchain fun last h => (List.cons_subset.mp (hlast last h)).1
  | known _ _ _ ih =>
    exact ih hnodup hchain (fun last h => (List.cons_subset.mp (hlast last h)).2) hs
  | @enters path id rest s t u hmem _ _ _ ihinner ihrest =>
    refine ihrest hnodup hchain (fun last h => (List.cons_subset.mp (hlast last h)).2)
      (ihinner ?_ ?_ ?_ hs)
    · exact List.nodup_append_comm.mp (List.nodup_cons.mpr ⟨hmem, hnodup⟩)
    · refine List.isChain_append.mpr ⟨hchain, List.isChain_singleton _, ?_⟩
      intro last hl other ho
      obtain rfl := Option.some.inj ho
      exact (List.cons_subset.mp (hlast last hl)).1
    · intro last hl
      rw [List.getLast?_concat] at hl
      obtain rfl := Option.some.inj hl
      exact List.Subset.refl _

/-- While no cycle is found, what was left begins no endless chain of dependencies, nor
    does what is searched from. -/
theorem acc (h : Searches next path ids s t) (ht : t.cycles = [])
    (hs : ∀ id ∈ s.visited, id ∉ path → Acc (fun other id => other ∈ next id) id) :
    (∀ id ∈ t.visited, id ∉ path → Acc (fun other id => other ∈ next id) id) ∧
      ∀ id ∈ ids, Acc (fun other id => other ∈ next id) id := by
  induction h with
  | done => exact ⟨hs, fun id h => absurd h List.not_mem_nil⟩
  | closes _ hrest => exact absurd (hrest.cycles_eq_nil ht) (by simp)
  | known hmem hvisited _ ih =>
    obtain ⟨hleft, hrest⟩ := ih ht hs
    exact ⟨hleft, List.forall_mem_cons.mpr ⟨hs _ hvisited hmem, hrest⟩⟩
  | @enters path id rest s t u hmem _ _ hrest ihinner ihrest =>
    obtain ⟨hinner, hnext⟩ := ihinner (hrest.cycles_eq_nil ht) fun other h hpath => by
      simp only [List.mem_append, List.mem_singleton, not_or] at h hpath
      exact hs other (h.resolve_right hpath.2) hpath.1
    have hid : Acc (fun other id => other ∈ next id) id := ⟨id, fun other h => hnext other h⟩
    obtain ⟨hleft, hrest⟩ := ihrest ht fun other h hpath => by
      by_cases heq : other = id
      · exact heq ▸ hid
      · exact hinner other h (by simp [hpath, heq])
    exact ⟨hleft, List.forall_mem_cons.mpr ⟨hid, hrest⟩⟩

end Searches

/-- What begins no endless chain does not come back to itself. -/
theorem not_transGen_of_acc {depends : String → String → Prop} {id : String}
    (h : Acc (fun other id => depends id other) id) : ¬ Relation.TransGen depends id id := by
  induction h with
  | intro id _ ih =>
    intro hcycle
    obtain ⟨other, hother, hback⟩ := Relation.TransGen.head'_iff.mp hcycle
    exact ih other hother (.tail' hback hother)

/-! ## Graphs -/

namespace DependencyGraph

variable {g : DependencyGraph}

/-- An id with dependencies is that of a node. -/
theorem mem_ids_of_dependencies {id : String}
    (h : dependenciesOf (g.nodes.map fun n => (n.id, n.dependencies)) id ≠ []) :
    id ∈ g.nodes.map (·.id) := by
  obtain ⟨other, hother⟩ := List.exists_mem_of_ne_nil _ h
  obtain ⟨node, hnode, rfl, -⟩ := exists_node_of_dependsOn (g := g) hother
  exact List.mem_map_of_mem hnode

/-- The search through a graph, from the id of each node in turn. -/
def SearchedTo (g : DependencyGraph) : Search → Prop :=
  Searches (dependenciesOf (g.nodes.map fun n => (n.id, n.dependencies))) []
    (g.nodes.map (·.id)) ⟨[], []⟩

/-- The search through a graph ends, and the cycles of the graph are those it finds. -/
theorem exists_searchedTo (g : DependencyGraph) : ∃ s, g.SearchedTo s ∧ g.cycles = s.cycles := by
  let next := dependenciesOf (g.nodes.map fun n => (n.id, n.dependencies))
  have hvisit : ∀ id ∈ g.nodes.map (·.id), ∀ s,
      Searches next [] [id] s (visit next (g.nodes.length + 2) [] id s) := by
    intro id _ s
    refine searches_visit (fun _ => mem_ids_of_dependencies) _ [] id s List.nodup_nil
      (List.nil_subset _) ?_
    simp
  refine ⟨_, Searches.foldl hvisit ⟨[], []⟩, ?_⟩
  simp only [DependencyGraph.cycles, TokenFormula.cycles, List.foldl_map, List.length_map, next]

/-- Whatever the nodes of a graph are, the search for cycles ends, with one result; each
    list that it finds is a cycle; and it finds one if and only if some id depends on
    itself along a chain of dependencies. -/
theorem cycles_detected (g : DependencyGraph) :
    (∃ s, (∀ t, g.SearchedTo t ↔ t = s) ∧ g.cycles = s.cycles) ∧
    (∀ ids ∈ g.cycles, IsCycle g.DependsOn ids) ∧
    (g.cycles ≠ [] ↔ ∃ id, Relation.TransGen g.DependsOn id id) := by
  obtain ⟨s, hs, hcycles⟩ := g.exists_searchedTo
  have hsound : ∀ ids ∈ g.cycles, IsCycle g.DependsOn ids := by
    rw [hcycles]
    refine Searches.isCycle hs List.nodup_nil .nil ?_ ?_
    · intro last h
      cases h
    · intro ids h
      cases h
  refine ⟨⟨s, fun t => ⟨fun ht => ht.unique hs, fun ht => ht ▸ hs⟩, hcycles⟩, hsound, ?_, ?_⟩
  · intro hne
    obtain ⟨ids, hids⟩ := List.exists_mem_of_ne_nil _ hne
    exact (hsound ids hids).exists_transGen
  · rintro ⟨id, hid⟩ hnil
    obtain ⟨other, hother, -⟩ := Relation.TransGen.head'_iff.mp hid
    obtain ⟨node, hnode, rfl, -⟩ := exists_node_of_dependsOn hother
    obtain ⟨-, hacc⟩ := Searches.acc hs (hcycles ▸ hnil) fun id h => by cases h
    exact not_transGen_of_acc (hacc node.id (List.mem_map_of_mem hnode)) hid

/-- Of two cycles through one id the search finds the first, and it never looks at a
    second node with an id. -/
example :
    (DependencyGraph.mk
      [⟨"a", "", .formula, [], [], ["b", "c", "missing"], none⟩,
        ⟨"b", "", .formula, [], [], ["c"], none⟩, ⟨"c", "", .formula, [], [], ["a"], none⟩,
        ⟨"c", "", .formula, [], [], ["c"], none⟩] [] [] []).cycles = [["a", "b", "c"]] := by
  decide

end DependencyGraph
end TokenFormula
